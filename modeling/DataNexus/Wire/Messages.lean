/-
  The messages of a PostgreSQL client (`protocol/postgresql/src/lib.rs`).

  A frame is a tag, a length and a body; the first frame of a connection has no tag.  The decoders walk along the body with
  an offset.  A count is a signed word that is made a size before anything is checked, so on a negative one
  `Vec::with_capacity` panics.

  `WireMessage` is what the protocol lays out: a Bind has the format codes and the bytes of its parameters, of which
  `decode_bind_body` keeps the texts.  The text of a UTF-8 error is left out.
-/
import DataNexus.Lib.Fallible
import DataNexus.Lib.Layout
import DataNexus.Lib.Utf8

namespace DataNexus.PgMessages

open Fallible Layout Utf8

/-! ## Messages and errors -/

inductive ProtocolError where
  | invalidLength (expected : Option Nat) (actual : Nat)
  | invalidProtocolVersion (version : Int32)
  | unsupportedFrontendMessage (tag : UInt8)
  | invalidUtf8
  | missingTerminator
  | malformedStartupParameters
  | malformedCString
  deriving DecidableEq

inductive Failure where
  | error (e : ProtocolError)
  /-- `capacity overflow` -/
  | panicked
  deriving DecidableEq

inductive FrontendMessage where
  | query (sql : String)
  | terminate
  | sync
  | parse (statement query : String) (paramTypes : List Int32)
  | bind (portal statement : String) (parameters : List (Option String)) (resultFormats : List Int16)
  | describe (target : UInt8) (name : String)
  | execute (portal : String) (maxRows : Int32)
  | close (target : UInt8) (name : String)
  | flush
  deriving DecidableEq

/-! ## Words -/

/-- `i16::to_be_bytes`. -/
def be16 (n : Int16) : List UInt8 :=
  let v := n.toUInt16.toNat
  [(v / 256).toUInt8, v.toUInt8]

/-- `i32::to_be_bytes`. -/
def be32 (n : Int32) : List UInt8 :=
  let v := n.toUInt32.toNat
  [(v / 16777216).toUInt8, (v / 65536).toUInt8, (v / 256).toUInt8, v.toUInt8]

def readI16 : List UInt8 → Int16
  | a :: b :: _ => (UInt16.ofNat (a.toNat * 256 + b.toNat)).toInt16
  | _ => 0

def readI32 : List UInt8 → Int32
  | a :: b :: c :: d :: _ => (UInt32.ofNat (a.toNat * 16777216 + b.toNat * 65536 + c.toNat * 256 + d.toNat)).toInt32
  | _ => 0

def readI64 : List UInt8 → Int64
  | a :: b :: c :: d :: e :: f :: g :: h :: _ =>
    (UInt64.ofNat ([a, b, c, d, e, f, g, h].foldl (fun n x => n * 256 + x.toNat) 0)).toInt64
  | _ => 0

@[simp] theorem length_be16 (n : Int16) : (be16 n).length = 2 := rfl

@[simp] theorem length_be32 (n : Int32) : (be32 n).length = 4 := rfl

theorem readI16_be16 (n : Int16) (rest : List UInt8) : readI16 (be16 n ++ rest) = n := by
  have hlt := n.toUInt16.toNat_lt
  have hhigh : (n.toUInt16.toNat / 256).toUInt8.toNat = n.toUInt16.toNat / 256 % 256 := by simp
  have hlow : n.toUInt16.toNat.toUInt8.toNat = n.toUInt16.toNat % 256 := by simp
  show (UInt16.ofNat ((n.toUInt16.toNat / 256).toUInt8.toNat * 256 + n.toUInt16.toNat.toUInt8.toNat)).toInt16 = n
  rw [hhigh, hlow, show n.toUInt16.toNat / 256 % 256 * 256 + n.toUInt16.toNat % 256 = n.toUInt16.toNat by omega,
    UInt16.ofNat_toNat]
  rfl

theorem readI32_be32 (n : Int32) (rest : List UInt8) : readI32 (be32 n ++ rest) = n := by
  have hlt := n.toUInt32.toNat_lt
  have h0 : (n.toUInt32.toNat / 16777216).toUInt8.toNat = n.toUInt32.toNat / 16777216 % 256 := by simp
  have h1 : (n.toUInt32.toNat / 65536).toUInt8.toNat = n.toUInt32.toNat / 65536 % 256 := by simp
  have h2 : (n.toUInt32.toNat / 256).toUInt8.toNat = n.toUInt32.toNat / 256 % 256 := by simp
  have h3 : n.toUInt32.toNat.toUInt8.toNat = n.toUInt32.toNat % 256 := by simp
  show (UInt32.ofNat ((n.toUInt32.toNat / 16777216).toUInt8.toNat * 16777216 +
    (n.toUInt32.toNat / 65536).toUInt8.toNat * 65536 + (n.toUInt32.toNat / 256).toUInt8.toNat * 256 +
    n.toUInt32.toNat.toUInt8.toNat)).toInt32 = n
  rw [h0, h1, h2, h3, show n.toUInt32.toNat / 16777216 % 256 * 16777216 + n.toUInt32.toNat / 65536 % 256 * 65536 +
    n.toUInt32.toNat / 256 % 256 * 256 + n.toUInt32.toNat % 256 = n.toUInt32.toNat by omega, UInt32.ofNat_toNat]
  rfl

theorem be16_readI16 {bytes : List UInt8} (h : 2 ≤ bytes.length) : be16 (readI16 bytes) <+: bytes := by
  match bytes, h with
  | a :: b :: rest, _ =>
    have ha := a.toNat_lt
    have hb := b.toNat_lt
    have hv : (UInt16.ofNat (a.toNat * 256 + b.toNat)).toNat = a.toNat * 256 + b.toNat :=
      UInt16.toNat_ofNat_of_lt' (by show _ < 65536; omega)
    have hhigh : ((a.toNat * 256 + b.toNat) / 256).toUInt8 = a := by
      rw [show (a.toNat * 256 + b.toNat) / 256 = a.toNat by omega]
      exact UInt8.ofNat_toNat
    have hlow : (a.toNat * 256 + b.toNat).toUInt8 = b := by
      apply UInt8.toNat.inj
      have : (a.toNat * 256 + b.toNat).toUInt8.toNat = (a.toNat * 256 + b.toNat) % 256 := by simp
      omega
    refine ⟨rest, ?_⟩
    show [((UInt16.ofNat (a.toNat * 256 + b.toNat)).toNat / 256).toUInt8,
      (UInt16.ofNat (a.toNat * 256 + b.toNat)).toNat.toUInt8] ++ rest = a :: b :: rest
    rw [hv, hhigh, hlow]
    rfl

theorem be32_readI32 {bytes : List UInt8} (h : 4 ≤ bytes.length) : be32 (readI32 bytes) <+: bytes := by
  match bytes, h with
  | a :: b :: c :: d :: rest, _ =>
    have ha := a.toNat_lt
    have hb := b.toNat_lt
    have hc := c.toNat_lt
    have hd := d.toNat_lt
    generalize hn : a.toNat * 16777216 + b.toNat * 65536 + c.toNat * 256 + d.toNat = n
    have hv : (UInt32.ofNat n).toNat = n := UInt32.toNat_ofNat_of_lt' (by show _ < 4294967296; omega)
    have h0 : (n / 16777216).toUInt8 = a := by
      apply UInt8.toNat.inj
      have : (n / 16777216).toUInt8.toNat = n / 16777216 % 256 := by simp
      omega
    have h1 : (n / 65536).toUInt8 = b := by
      apply UInt8.toNat.inj
      have : (n / 65536).toUInt8.toNat = n / 65536 % 256 := by simp
      omega
    have h2 : (n / 256).toUInt8 = c := by
      apply UInt8.toNat.inj
      have : (n / 256).toUInt8.toNat = n / 256 % 256 := by simp
      omega
    have h3 : n.toUInt8 = d := by
      apply UInt8.toNat.inj
      have : n.toUInt8.toNat = n % 256 := by simp
      omega
    refine ⟨rest, ?_⟩
    show [((UInt32.ofNat (a.toNat * 16777216 + b.toNat * 65536 + c.toNat * 256 + d.toNat)).toNat / 16777216).toUInt8,
      ((UInt32.ofNat (a.toNat * 16777216 + b.toNat * 65536 + c.toNat * 256 + d.toNat)).toNat / 65536).toUInt8,
      ((UInt32.ofNat (a.toNat * 16777216 + b.toNat * 65536 + c.toNat * 256 + d.toNat)).toNat / 256).toUInt8,
      (UInt32.ofNat (a.toNat * 16777216 + b.toNat * 65536 + c.toNat * 256 + d.toNat)).toNat.toUInt8] ++ rest =
        a :: b :: c :: d :: rest
    rw [hn, hv, h0, h1, h2, h3]
    rfl

/-! ## Bodies -/

/-- `&bytes[start..stop]`; out of range it panics. -/
def slice (bytes : List UInt8) (start stop : Nat) : Except Failure (List UInt8) :=
  if start ≤ stop ∧ stop ≤ bytes.length then .ok ((bytes.drop start).take (stop - start)) else .error .panicked

theorem slice_eq_ok {bytes : List UInt8} {start stop : Nat} (h : start ≤ stop) (hstop : stop ≤ bytes.length) :
    slice bytes start stop = .ok ((bytes.drop start).take (stop - start)) := if_pos ⟨h, hstop⟩

theorem slice_to {bytes : List UInt8} {stop : Nat} (h : stop ≤ bytes.length) :
    slice bytes 0 stop = .ok (bytes.take stop) := slice_eq_ok (Nat.zero_le _) h

theorem slice_from {bytes : List UInt8} {start : Nat} (h : start ≤ bytes.length) :
    slice bytes start bytes.length = .ok (bytes.drop start) := by
  rw [slice_eq_ok h (Nat.le_refl _), List.take_of_length_le (Nat.le_of_eq List.length_drop)]

def splitCstring (input : List UInt8) : Except Failure (String × List UInt8) :=
  match input.findIdx? (· == 0) with
  | none => .error (.error .malformedCString)
  | some nul => do
    match fromUtf8 (← slice input 0 nul) with
    | none => .error (.error .invalidUtf8)
    | some s => return (s, ← slice input (nul + 1) input.length)

/-- The bytes of an item are there; `invalidLength` says how many there should be. -/
def need (n : Nat) (rest : List UInt8) (offset : Nat) : Except Failure Unit :=
  if rest.length < offset + n then .error (.error (.invalidLength (some (offset + n)) rest.length)) else .ok ()

def i16At : Reader UInt8 Failure Int16 := fun rest offset => do
  need 2 rest offset
  return (readI16 (← slice rest offset (offset + 2)), offset + 2)

def i32At : Reader UInt8 Failure Int32 := fun rest offset => do
  need 4 rest offset
  return (readI32 (← slice rest offset (offset + 4)), offset + 4)

/-- A count, made a size, and the vector for as many items: a negative count is too large a capacity. -/
def countAt : Reader UInt8 Failure Nat := fun rest offset => do
  let (n, offset) ← i16At rest offset
  if n.toInt < 0 then .error .panicked else .ok (n.toNatClampNeg, offset)

def formatAt : Reader UInt8 Failure Int16 := fun rest offset => do
  let (fmt, offset) ← i16At rest offset
  if fmt ≠ 0 ∧ fmt ≠ 1 then .error (.error (.unsupportedFrontendMessage 66)) else .ok (fmt, offset)

def decodePgBinaryParamToText (raw : List UInt8) : Except ProtocolError String :=
  match raw.length with
  | 0 => .ok ""
  | 1 => .ok (if raw.headD 0 ≠ 0 then "true" else "false")
  | 2 => .ok (toString (readI16 raw).toInt)
  | 4 => .ok (toString (readI32 raw).toInt)
  | 8 => .ok (toString (readI64 raw).toInt)
  | _ =>
    match fromUtf8 raw with
    | some s => .ok s
    | none => .error (.unsupportedFrontendMessage 66)

/-- The format of a parameter: none given is text, one is for all. -/
def formatOf (paramFormats : List Int16) (i : Nat) : Int16 :=
  match paramFormats with
  | [] => 0
  | [fmt] => fmt
  | _ => paramFormats.getD i 0

/-- The text of a parameter that is not NULL.  A text with a NUL byte that has the length of a word is taken for one. -/
def parameterText (fmt : Int16) (raw : List UInt8) : Except ProtocolError String :=
  if fmt = 0 then
    if raw.any (· == 0) && (raw.length == 2 || raw.length == 4 || raw.length == 8) then decodePgBinaryParamToText raw
    else
      match fromUtf8 raw with
      | some s => .ok s
      | none => .error .invalidUtf8
  else decodePgBinaryParamToText raw

def parameterAt (paramFormats : List Int16) (i : Nat) : Reader UInt8 Failure (Option String) := fun rest offset => do
  let (len, offset) ← i32At rest offset
  if len.toInt < 0 then return (none, offset)
  else
    need len.toNatClampNeg rest offset
    match parameterText (formatOf paramFormats i) (← slice rest offset (offset + len.toNatClampNeg)) with
    | .error e => .error (.error e)
    | .ok text => return (some text, offset + len.toNatClampNeg)

def atEnd (rest : List UInt8) (offset : Nat) : Except Failure Unit :=
  if offset ≠ rest.length then .error (.error (.invalidLength (some offset) rest.length)) else .ok ()

def decodeParseBody (body : List UInt8) : Except Failure FrontendMessage := do
  let (statement, rest) ← splitCstring body
  let (query, rest) ← splitCstring rest
  let (nparams, offset) ← countAt rest 0
  let (paramTypes, offset) ← times (fun _ => i32At) 0 nparams rest offset
  atEnd rest offset
  return .parse statement query paramTypes

def decodeBindBody (body : List UInt8) : Except Failure FrontendMessage := do
  let (portal, rest) ← splitCstring body
  let (statement, rest) ← splitCstring rest
  let (nformats, offset) ← countAt rest 0
  let (paramFormats, offset) ← times (fun _ => formatAt) 0 nformats rest offset
  let (nparams, offset) ← countAt rest offset
  let (parameters, offset) ← times (parameterAt paramFormats) 0 nparams rest offset
  let (nresultFormats, offset) ← countAt rest offset
  let (resultFormats, offset) ← times (fun _ => formatAt) 0 nresultFormats rest offset
  atEnd rest offset
  return .bind portal statement parameters resultFormats

def decodeDescribeOrCloseBody (body : List UInt8) (isDescribe : Bool) : Except Failure FrontendMessage :=
  match body with
  | [] => .error (.error (.invalidLength (some 1) 0))
  | target :: tail => do
    let (name, rest) ← splitCstring tail
    if !rest.isEmpty then .error (.error (.invalidLength (some 0) rest.length))
    else return if isDescribe then .describe target name else .close target name

def decodeExecuteBody (body : List UInt8) : Except Failure FrontendMessage := do
  let (portal, rest) ← splitCstring body
  if rest.length ≠ 4 then .error (.error (.invalidLength (some 4) rest.length))
  else return .execute portal (readI32 rest)

def decodeSingleCstring (payload : List UInt8) : Except Failure String :=
  match payload.findIdx? (· == 0) with
  | none => .error (.error .missingTerminator)
  | some stop =>
    if stop + 1 ≠ payload.length then .error (.error .malformedCString)
    else do
      match fromUtf8 (← slice payload 0 stop) with
      | none => .error (.error .invalidUtf8)
      | some s => return s

def requireEmptyBody (body : List UInt8) : Except Failure Unit :=
  if body.isEmpty then .ok () else .error (.error (.invalidLength (some 5) (body.length + 5)))

def decodeBody (tag : UInt8) (body : List UInt8) : Except Failure FrontendMessage :=
  match tag with
  | 81 => do return .query (← decodeSingleCstring body)
  | 88 => do
    requireEmptyBody body
    return .terminate
  | 83 => do
    requireEmptyBody body
    return .sync
  | 72 => do
    requireEmptyBody body
    return .flush
  | 80 => decodeParseBody body
  | 66 => decodeBindBody body
  | 68 => decodeDescribeOrCloseBody body true
  | 69 => decodeExecuteBody body
  | 67 => decodeDescribeOrCloseBody body false
  | tag => .error (.error (.unsupportedFrontendMessage tag))

def decodeFrontendMessage (frame : List UInt8) : Except Failure FrontendMessage :=
  if frame.length < 5 then .error (.error (.invalidLength none frame.length))
  else do
    let declaredLen := readI32 (← slice frame 1 5)
    if declaredLen.toInt < 4 then .error (.error (.invalidLength none declaredLen.toNatClampNeg))
    else if declaredLen.toNatClampNeg + 1 ≠ frame.length then
      .error (.error (.invalidLength (some (declaredLen.toNatClampNeg + 1)) frame.length))
    else decodeBody (frame.headD 0) (← slice frame 5 frame.length)

def encodeMessage (tag : UInt8) (body : List UInt8) : List UInt8 :=
  tag :: (be32 (Int32.ofNat (body.length + 4)) ++ body)

def encodeQueryMessage (sql : String) : List UInt8 := encodeMessage 81 (toUtf8 sql ++ [0])

/-! ## What the readers accept -/

theorem need_eq_ok {n : Nat} {rest : List UInt8} {offset : Nat} : need n rest offset = .ok () ↔ offset + n ≤ rest.length := by
  unfold need
  split_ifs with h
  · exact iff_of_false nofun (by omega)
  · exact iff_of_true rfl (by omega)

theorem need_never (n : Nat) (rest : List UInt8) (offset : Nat) : need n rest offset ≠ .error .panicked := by
  unfold need
  split_ifs
  · nofun
  · nofun

theorem length_of_at {rest bytes : List UInt8} {offset : Nat} (h : At rest offset bytes) (hne : bytes ≠ []) :
    offset + bytes.length ≤ rest.length := by
  have hle := List.IsPrefix.length_le h
  rw [List.length_drop] at hle
  have hpos := List.length_pos_of_ne_nil hne
  omega

variable {β : Type} {m : FrontendMessage}

theorem need_slice (n : Nat) (rest : List UInt8) (offset : Nat) (f : List UInt8 → Except Failure β) :
    (need n rest offset >>= fun _ => slice rest offset (offset + n) >>= f) =
      (need n rest offset >>= fun _ => f ((rest.drop offset).take n)) := by
  unfold need
  split_ifs with h
  · rfl
  · rw [slice_eq_ok (Nat.le_add_right _ _) (Nat.not_lt.mp h), Nat.add_sub_cancel_left]
    rfl

theorem readI16_take (bytes : List UInt8) : readI16 (bytes.take 2) = readI16 bytes := by
  match bytes with
  | [] => rfl
  | [_] => rfl
  | _ :: _ :: _ => rfl

theorem readI32_take (bytes : List UInt8) : readI32 (bytes.take 4) = readI32 bytes := by
  match bytes with
  | [] => rfl
  | [_] => rfl
  | [_, _] => rfl
  | [_, _, _] => rfl
  | _ :: _ :: _ :: _ :: _ => rfl

theorem i16At_eq (rest : List UInt8) (offset : Nat) :
    i16At rest offset = (need 2 rest offset >>= fun _ => pure (readI16 (rest.drop offset), offset + 2)) := by
  rw [← readI16_take]
  exact need_slice 2 rest offset _

theorem i32At_eq (rest : List UInt8) (offset : Nat) :
    i32At rest offset = (need 4 rest offset >>= fun _ => pure (readI32 (rest.drop offset), offset + 4)) := by
  rw [← readI32_take]
  exact need_slice 4 rest offset _

theorem exact_i16At : Exact i16At be16 (fun _ => True) id := by
  intro rest offset n offset'
  rw [i16At_eq]
  constructor
  · intro h
    obtain ⟨⟨⟩, hneed, h⟩ := bind_eq_ok.mp h
    obtain ⟨rfl, rfl⟩ := Prod.mk.inj (pure_eq_ok.mp h)
    rw [need_eq_ok] at hneed
    exact ⟨_, trivial, be16_readI16 (by rw [List.length_drop]; omega), rfl, rfl⟩
  · rintro ⟨a, -, hat, rfl, rfl⟩
    have hle := length_of_at hat (List.cons_ne_nil _ _)
    obtain ⟨tail, htail⟩ := hat
    refine bind_eq_ok.mpr ⟨(), need_eq_ok.mpr hle, ?_⟩
    rw [← htail, readI16_be16]
    rfl

theorem exact_i32At : Exact i32At be32 (fun _ => True) id := by
  intro rest offset n offset'
  rw [i32At_eq]
  constructor
  · intro h
    obtain ⟨⟨⟩, hneed, h⟩ := bind_eq_ok.mp h
    obtain ⟨rfl, rfl⟩ := Prod.mk.inj (pure_eq_ok.mp h)
    rw [need_eq_ok] at hneed
    exact ⟨_, trivial, be32_readI32 (by rw [List.length_drop]; omega), rfl, rfl⟩
  · rintro ⟨a, -, hat, rfl, rfl⟩
    have hle := length_of_at hat (List.cons_ne_nil _ _)
    obtain ⟨tail, htail⟩ := hat
    refine bind_eq_ok.mpr ⟨(), need_eq_ok.mpr hle, ?_⟩
    rw [← htail, readI32_be32]
    rfl

theorem i16At_never : Never .panicked i16At := by
  intro rest offset h
  rw [i16At_eq] at h
  rcases bind_eq_error.mp h with h | ⟨⟨⟩, -, h⟩
  · exact need_never _ _ _ h
  · cases h

theorem i32At_never : Never .panicked i32At := by
  intro rest offset h
  rw [i32At_eq] at h
  rcases bind_eq_error.mp h with h | ⟨⟨⟩, -, h⟩
  · exact need_never _ _ _ h
  · cases h

def beCount (n : Nat) : List UInt8 := be16 (Int16.ofNat n)

theorem exact_countAt : Exact countAt beCount (· ≤ 32767) id := by
  intro rest offset n offset'
  unfold countAt
  constructor
  · intro h
    obtain ⟨⟨k, off⟩, hk, h⟩ := bind_eq_ok.mp h
    obtain ⟨_, -, hat, rfl, rfl⟩ := (exact_i16At _ _ _ _).mp hk
    dsimp only [id] at h
    split_ifs at h with hneg
    obtain ⟨rfl, rfl⟩ := Prod.mk.inj (Except.ok.inj h)
    have hlt := Int16.toNatClampNeg_lt k
    have hword : Int16.ofNat k.toNatClampNeg = k :=
      Int16.ofNat_toNatClampNeg k (Int16.le_iff_toInt_le.mpr (Int.not_lt.mp hneg))
    refine ⟨k.toNatClampNeg, by omega, ?_, rfl, rfl⟩
    unfold beCount
    rw [hword]
    exact hat
  · rintro ⟨m, hm, hat, hn, rfl⟩
    have hread := (exact_i16At rest offset _ _).mpr ⟨Int16.ofNat m, trivial, hat, rfl, rfl⟩
    have hint : (Int16.ofNat m).toInt = m := Int16.toInt_ofNat_of_lt (by omega)
    refine bind_eq_ok.mpr ⟨_, hread, ?_⟩
    dsimp only [id]
    rw [if_neg (by omega), Int16.toNatClampNeg_ofNat_of_lt (by omega), hn]
    rfl

/-- **A negative count panics.** -/
theorem countAt_panics {rest : List UInt8} {offset : Nat} :
    countAt rest offset = .error .panicked ↔ ∃ n : Int16, n.toInt < 0 ∧ At rest offset (be16 n) := by
  unfold countAt
  constructor
  · intro h
    rcases bind_eq_error.mp h with h | ⟨⟨n, off⟩, hn, h⟩
    · exact absurd h (i16At_never _ _)
    · obtain ⟨_, -, hat, rfl, rfl⟩ := (exact_i16At _ _ _ _).mp hn
      dsimp only [id] at h
      split_ifs at h with hneg
      exact ⟨_, hneg, hat⟩
  · rintro ⟨n, hneg, hat⟩
    refine bind_eq_error.mpr (.inr ⟨_, (exact_i16At _ _ _ _).mpr ⟨n, trivial, hat, rfl, rfl⟩, ?_⟩)
    exact if_pos hneg

theorem exact_formatAt : Exact formatAt be16 (fun fmt => fmt = 0 ∨ fmt = 1) id := by
  intro rest offset fmt offset'
  unfold formatAt
  constructor
  · intro h
    obtain ⟨⟨k, off⟩, hk, h⟩ := bind_eq_ok.mp h
    obtain ⟨_, -, hat, rfl, rfl⟩ := (exact_i16At _ _ _ _).mp hk
    dsimp only [id] at h
    split_ifs at h with hbad
    obtain ⟨rfl, rfl⟩ := Prod.mk.inj (Except.ok.inj h)
    exact ⟨_, by tauto, hat, rfl, rfl⟩
  · rintro ⟨a, ha, hat, hfmt, rfl⟩
    refine bind_eq_ok.mpr ⟨_, (exact_i16At _ _ _ _).mpr ⟨a, trivial, hat, rfl, rfl⟩, ?_⟩
    rw [hfmt]
    exact if_neg (by show ¬ (a ≠ 0 ∧ a ≠ 1); tauto)

theorem formatAt_never : Never .panicked formatAt := by
  intro rest offset h
  rcases bind_eq_error.mp h with h | ⟨⟨n, off⟩, -, h⟩
  · exact i16At_never _ _ h
  · dsimp only at h
    split_ifs at h
    cases h

/-- A parameter as it is laid out: a negative length for NULL, or a length and as many bytes. -/
inductive WireParameter where
  | null (len : Int32)
  | value (raw : List UInt8)
  deriving DecidableEq

namespace WireParameter

def write : WireParameter → List UInt8
  | .null len => be32 len
  | .value raw => be32 (Int32.ofNat raw.length) ++ raw

/-- What the decoder takes for a parameter: bytes that have a text in their format. -/
def Ok (paramFormats : List Int16) (i : Nat) : WireParameter → Prop
  | .null len => len.toInt < 0
  | .value raw => raw.length < 2 ^ 31 ∧ ∃ text, parameterText (formatOf paramFormats i) raw = .ok text

def mean (paramFormats : List Int16) (i : Nat) : WireParameter → Option String
  | .null _ => none
  | .value raw => (parameterText (formatOf paramFormats i) raw).toOption

@[simp] theorem write_value (raw : List UInt8) : (value raw).write = be32 (Int32.ofNat raw.length) ++ raw := rfl

@[simp] theorem mean_value (paramFormats : List Int16) (i : Nat) (raw : List UInt8) :
    (value raw).mean paramFormats i = (parameterText (formatOf paramFormats i) raw).toOption := rfl

end WireParameter

theorem parameterAt_eq (paramFormats : List Int16) (i : Nat) (rest : List UInt8) (offset : Nat) :
    parameterAt paramFormats i rest offset = (i32At rest offset >>= fun p =>
      if p.1.toInt < 0 then pure (none, p.2)
      else need p.1.toNatClampNeg rest p.2 >>= fun _ =>
        match parameterText (formatOf paramFormats i) ((rest.drop p.2).take p.1.toNatClampNeg) with
        | .error e => .error (.error e)
        | .ok text => pure (some text, p.2 + p.1.toNatClampNeg)) := by
  refine congrArg _ (funext fun p => ?_)
  dsimp only
  split_ifs
  · rfl
  · exact need_slice _ rest p.2 _

theorem exact_parameterAt (paramFormats : List Int16) (i : Nat) :
    Exact (parameterAt paramFormats i) WireParameter.write (WireParameter.Ok paramFormats i)
      (WireParameter.mean paramFormats i) := by
  intro rest offset text offset'
  rw [parameterAt_eq]
  constructor
  · intro h
    obtain ⟨⟨len, off⟩, hlen, h⟩ := bind_eq_ok.mp h
    obtain ⟨_, -, hat, rfl, rfl⟩ := (exact_i32At _ _ _ _).mp hlen
    dsimp only [id] at h
    split_ifs at h with hneg
    · obtain ⟨rfl, rfl⟩ := Prod.mk.inj (pure_eq_ok.mp h)
      exact ⟨.null _, hneg, hat, rfl, rfl⟩
    · obtain ⟨⟨⟩, hneed, h⟩ := bind_eq_ok.mp h
      rw [need_eq_ok] at hneed
      have hlt := Int32.toNatClampNeg_lt len
      have hword : Int32.ofNat len.toNatClampNeg = len :=
        Int32.ofNat_toNatClampNeg len (Int32.le_iff_toInt_le.mpr (Int.not_lt.mp hneg))
      generalize hraw : (rest.drop (offset + (be32 len).length)).take len.toNatClampNeg = raw at h
      have hrawlen : raw.length = len.toNatClampNeg := by
        rw [← hraw, List.length_take, List.length_drop]
        omega
      split at h
      · cases h
      · rename_i s hs
        obtain ⟨rfl, rfl⟩ := Prod.mk.inj (pure_eq_ok.mp h)
        refine ⟨.value raw, ⟨by omega, s, hs⟩, ?_, ?_, ?_⟩
        · rw [WireParameter.write_value, hrawlen, hword]
          refine at_append.mpr ⟨hat, ?_⟩
          unfold At
          rw [← hraw]
          exact List.take_prefix _ _
        · rw [WireParameter.mean_value, hs]
          rfl
        · rw [WireParameter.write_value, List.length_append, hrawlen, Nat.add_assoc, hword]
  · rintro ⟨a, ha, hat, rfl, rfl⟩
    cases a with
    | null len =>
      refine bind_eq_ok.mpr ⟨_, (exact_i32At _ _ _ _).mpr ⟨len, trivial, hat, rfl, rfl⟩, ?_⟩
      exact if_pos ha
    | value raw =>
      obtain ⟨hlt, s, hs⟩ := ha
      rw [WireParameter.write_value] at hat
      obtain ⟨hlen, hraw⟩ := at_append.mp hat
      have hint : (Int32.ofNat raw.length).toInt = raw.length := Int32.toInt_ofNat_of_lt hlt
      have hnat : (Int32.ofNat raw.length).toNatClampNeg = raw.length := Int32.toNatClampNeg_ofNat_of_lt hlt
      have hfits : offset + (be32 (Int32.ofNat raw.length)).length + raw.length ≤ rest.length := by
        have h4 := length_of_at hlen (List.cons_ne_nil _ _)
        have hle := List.IsPrefix.length_le hraw
        rw [List.length_drop] at hle
        omega
      refine bind_eq_ok.mpr ⟨_, (exact_i32At _ _ _ _).mpr ⟨_, trivial, hlen, rfl, rfl⟩, ?_⟩
      dsimp only [id]
      rw [if_neg (by omega), hnat]
      refine bind_eq_ok.mpr ⟨(), need_eq_ok.mpr hfits, ?_⟩
      rw [List.prefix_iff_eq_take.mp hraw |>.symm, hs, WireParameter.mean_value, hs, WireParameter.write_value,
        List.length_append, ← Nat.add_assoc]
      rfl

theorem parameterAt_never (paramFormats : List Int16) (i : Nat) : Never .panicked (parameterAt paramFormats i) := by
  intro rest offset h
  rw [parameterAt_eq] at h
  rcases bind_eq_error.mp h with h | ⟨⟨len, off⟩, -, h⟩
  · exact i32At_never _ _ h
  · dsimp only at h
    split_ifs at h
    · cases h
    · rcases bind_eq_error.mp h with h | ⟨⟨⟩, -, h⟩
      · exact need_never _ _ _ h
      · split at h
        · cases h
        · cases h

def NulFree (s : String) : Prop := '\x00' ∉ s.toList

def cstring (s : String) : List UInt8 := toUtf8 s ++ [0]

theorem splitCstring_eq (input : List UInt8) : splitCstring input = match input.findIdx? (· == 0) with
      | none => .error (.error .malformedCString)
      | some nul =>
        match fromUtf8 (input.take nul) with
        | none => .error (.error .invalidUtf8)
        | some s => .ok (s, input.drop (nul + 1)) := by
  unfold splitCstring
  cases hnul : input.findIdx? (· == 0) with
  | none => rfl
  | some nul =>
    obtain ⟨hlt, -⟩ := List.findIdx?_eq_some_iff_getElem.mp hnul
    dsimp only
    rw [slice_to (Nat.le_of_lt hlt), slice_from hlt]
    rfl

/-- **A C string**: the encoding of a string without NUL, and a NUL. -/
theorem splitCstring_eq_ok {input rest : List UInt8} {s : String} :
    splitCstring input = .ok (s, rest) ↔ NulFree s ∧ input = cstring s ++ rest := by
  rw [splitCstring_eq]
  unfold NulFree cstring
  rw [List.append_assoc, List.singleton_append]
  constructor
  · intro h
    cases hnul : input.findIdx? (· == 0) with
    | none =>
      rw [hnul] at h
      cases h
    | some nul =>
      rw [hnul] at h
      dsimp only at h
      obtain ⟨hlt, hzero, hbefore⟩ := List.findIdx?_eq_some_iff_getElem.mp hnul
      cases hs : fromUtf8 (input.take nul) with
      | none =>
        rw [hs] at h
        cases h
      | some t =>
        rw [hs] at h
        obtain ⟨rfl, rfl⟩ := Prod.mk.inj (Except.ok.inj h)
        have htake := fromUtf8_eq_some.mp hs
        have hzero' : input[nul] = 0 := by simpa using hzero
        refine ⟨?_, ?_⟩
        · rw [← zero_mem_toUtf8, ← htake]
          intro hmem
          obtain ⟨j, hj, hat⟩ := List.mem_iff_getElem.mp hmem
          rw [List.length_take] at hj
          rw [List.getElem_take] at hat
          have := hbefore j (by omega)
          rw [hat] at this
          exact this rfl
        · rw [← htake, ← hzero', ← List.drop_eq_getElem_cons hlt, List.take_append_drop]
  · rintro ⟨hfree, rfl⟩
    have hnul : (toUtf8 s ++ 0 :: rest).findIdx? (· == 0) = some (toUtf8 s).length := by
      rw [List.findIdx?_eq_some_iff_getElem]
      refine ⟨by simp, by simp, fun j hj => ?_⟩
      rw [List.getElem_append_left hj]
      intro hzero
      have hmem : (0 : UInt8) ∈ toUtf8 s := by
        have := List.getElem_mem hj
        rwa [eq_of_beq hzero] at this
      exact hfree (zero_mem_toUtf8.mp hmem)
    rw [hnul]
    dsimp only
    rw [List.take_left, fromUtf8_toUtf8, List.drop_append, List.drop_of_length_le (by omega)]
    simp

theorem splitCstring_never (input : List UInt8) : splitCstring input ≠ .error .panicked := by
  rw [splitCstring_eq]
  split
  · nofun
  · split
    · nofun
    · nofun

/-- The layout of a list: a count, and the items. -/
def writeList {α : Type} (write : α → List UInt8) (as : List α) : List UInt8 := beCount as.length ++ as.flatMap write

theorem counted_eq_ok {α : Type} {r : Nat → Reader UInt8 Failure β} {write : α → List UInt8}
    {Ok : Nat → α → Prop} {mean : Nat → α → β} (h : ∀ i, Exact (r i) write (Ok i) (mean i)) {rest : List UInt8}
    {offset offset' : Nat} {bs : List β} :
    (∃ n off, countAt rest offset = .ok (n, off) ∧ times r 0 n rest off = .ok (bs, offset')) ↔
      ∃ as, as.length ≤ 32767 ∧ OkFrom Ok 0 as ∧ At rest offset (writeList write as) ∧ bs = meanFrom mean 0 as ∧
        offset' = offset + (writeList write as).length := by
  constructor
  · rintro ⟨n, off, hcount, hitems⟩
    obtain ⟨_, hn, hat, rfl, rfl⟩ := (exact_countAt _ _ _ _).mp hcount
    obtain ⟨as, ⟨rfl, hOk⟩, hats, rfl, rfl⟩ := (Exact.times h 0 _ _ _ _ _).mp hitems
    refine ⟨as, hn, hOk, at_append.mpr ⟨hat, hats⟩, rfl, ?_⟩
    unfold writeList
    rw [List.length_append, ← Nat.add_assoc]
  · rintro ⟨as, hlen, hOk, hat, rfl, rfl⟩
    obtain ⟨hcount, hitems⟩ := at_append.mp hat
    refine ⟨as.length, offset + (beCount as.length).length, ?_, ?_⟩
    · exact (exact_countAt _ _ _ _).mpr ⟨_, hlen, hcount, rfl, rfl⟩
    · refine (Exact.times h 0 _ _ _ _ _).mpr ⟨as, ⟨rfl, hOk⟩, hitems, rfl, ?_⟩
      unfold writeList
      rw [List.length_append, Nat.add_assoc]

theorem atEnd_eq_ok {rest : List UInt8} {offset : Nat} : atEnd rest offset = .ok () ↔ offset = rest.length := by
  unfold atEnd
  split_ifs with h
  · exact iff_of_false nofun h
  · exact iff_of_true rfl (not_not.mp h)

theorem atEnd_never (rest : List UInt8) (offset : Nat) : atEnd rest offset ≠ .error .panicked := by
  unfold atEnd
  split_ifs
  · nofun
  · nofun

theorem decodeParseBody_eq_ok {body : List UInt8} :
    decodeParseBody body = .ok m ↔ ∃ statement query paramTypes, NulFree statement ∧ NulFree query ∧
      paramTypes.length ≤ 32767 ∧ body = cstring statement ++ (cstring query ++ writeList be32 paramTypes) ∧
      m = .parse statement query paramTypes := by
  unfold decodeParseBody
  constructor
  · intro h
    obtain ⟨⟨statement, rest₁⟩, hstatement, h⟩ := bind_eq_ok.mp h
    obtain ⟨⟨query, rest⟩, hquery, h⟩ := bind_eq_ok.mp h
    obtain ⟨⟨n, off⟩, hcount, h⟩ := bind_eq_ok.mp h
    obtain ⟨⟨types, off'⟩, htypes, h⟩ := bind_eq_ok.mp h
    obtain ⟨_, hend, hm⟩ := bind_eq_ok.mp h
    obtain ⟨hs, rfl⟩ := splitCstring_eq_ok.mp hstatement
    obtain ⟨hq, rfl⟩ := splitCstring_eq_ok.mp hquery
    obtain ⟨as, hlen, -, hat, rfl, rfl⟩ := (counted_eq_ok fun _ => exact_i32At).mp ⟨n, off, hcount, htypes⟩
    rw [meanFrom_const, List.map_id] at hm
    rw [atEnd_eq_ok, Nat.zero_add] at hend
    rw [← eq_of_at hat hend]
    exact ⟨statement, query, as, hs, hq, hlen, rfl, (pure_eq_ok.mp hm).symm⟩
  · rintro ⟨statement, query, types, hs, hq, hlen, rfl, rfl⟩
    obtain ⟨n, off, hcount, htypes⟩ := (counted_eq_ok fun _ => exact_i32At).mpr
      ⟨types, hlen, (okFrom_const 0).mpr fun _ _ => trivial, at_self _, rfl, rfl⟩
    rw [meanFrom_const, List.map_id] at htypes
    refine bind_eq_ok.mpr ⟨_, splitCstring_eq_ok.mpr ⟨hs, rfl⟩, ?_⟩
    refine bind_eq_ok.mpr ⟨_, splitCstring_eq_ok.mpr ⟨hq, rfl⟩, ?_⟩
    refine bind_eq_ok.mpr ⟨_, hcount, bind_eq_ok.mpr ⟨_, htypes, ?_⟩⟩
    exact bind_eq_ok.mpr ⟨(), atEnd_eq_ok.mpr (Nat.zero_add _), rfl⟩

structure BindOk (paramFormats : List Int16) (parameters : List WireParameter) (resultFormats : List Int16) : Prop where
  formatsOk : paramFormats.length ≤ 32767 ∧ ∀ fmt ∈ paramFormats, fmt = 0 ∨ fmt = 1
  parametersOk : parameters.length ≤ 32767 ∧ OkFrom (WireParameter.Ok paramFormats) 0 parameters
  resultsOk : resultFormats.length ≤ 32767 ∧ ∀ fmt ∈ resultFormats, fmt = 0 ∨ fmt = 1

def bindLists (paramFormats : List Int16) (parameters : List WireParameter) (resultFormats : List Int16) : List UInt8 :=
  writeList be16 paramFormats ++ (writeList WireParameter.write parameters ++ writeList be16 resultFormats)

theorem decodeBindBody_eq_ok {body : List UInt8} :
    decodeBindBody body = .ok m ↔ ∃ portal statement paramFormats parameters resultFormats,
      NulFree portal ∧ NulFree statement ∧ BindOk paramFormats parameters resultFormats ∧
      body = cstring portal ++ (cstring statement ++ bindLists paramFormats parameters resultFormats) ∧
      m = .bind portal statement (meanFrom (WireParameter.mean paramFormats) 0 parameters) resultFormats := by
  unfold decodeBindBody
  constructor
  · intro h
    obtain ⟨⟨portal, rest₁⟩, hportal, h⟩ := bind_eq_ok.mp h
    obtain ⟨⟨statement, rest⟩, hstatement, h⟩ := bind_eq_ok.mp h
    obtain ⟨⟨n₁, off₁⟩, hcount₁, h⟩ := bind_eq_ok.mp h
    obtain ⟨⟨formats, off₂⟩, hformats, h⟩ := bind_eq_ok.mp h
    obtain ⟨⟨n₂, off₃⟩, hcount₂, h⟩ := bind_eq_ok.mp h
    obtain ⟨⟨parameters, off₄⟩, hparameters, h⟩ := bind_eq_ok.mp h
    obtain ⟨⟨n₃, off₅⟩, hcount₃, h⟩ := bind_eq_ok.mp h
    obtain ⟨⟨results, off₆⟩, hresults, h⟩ := bind_eq_ok.mp h
    obtain ⟨_, hend, hm⟩ := bind_eq_ok.mp h
    obtain ⟨hp, rfl⟩ := splitCstring_eq_ok.mp hportal
    obtain ⟨hs, rfl⟩ := splitCstring_eq_ok.mp hstatement
    obtain ⟨as₁, hlen₁, hok₁, hat₁, rfl, rfl⟩ := (counted_eq_ok fun _ => exact_formatAt).mp ⟨_, _, hcount₁, hformats⟩
    obtain ⟨as₂, hlen₂, hok₂, hat₂, rfl, rfl⟩ := (counted_eq_ok (exact_parameterAt _)).mp ⟨_, _, hcount₂, hparameters⟩
    obtain ⟨as₃, hlen₃, hok₃, hat₃, rfl, rfl⟩ := (counted_eq_ok fun _ => exact_formatAt).mp ⟨_, _, hcount₃, hresults⟩
    rw [meanFrom_const, meanFrom_const, List.map_id, List.map_id] at hm
    rw [meanFrom_const, List.map_id] at hok₂
    have hat : At rest 0 (bindLists as₁ as₂ as₃) := by
      refine at_append.mpr ⟨hat₁, at_append.mpr ⟨hat₂, ?_⟩⟩
      exact hat₃
    have hlength : (bindLists as₁ as₂ as₃).length = rest.length := by
      rw [atEnd_eq_ok] at hend
      rw [← hend]
      unfold bindLists
      rw [List.length_append, List.length_append]
      omega
    rw [← eq_of_at hat hlength]
    exact ⟨portal, statement, as₁, as₂, as₃, hp, hs,
      ⟨⟨hlen₁, (okFrom_const 0).mp hok₁⟩, ⟨hlen₂, hok₂⟩, ⟨hlen₃, (okFrom_const 0).mp hok₃⟩⟩, rfl,
      (pure_eq_ok.mp hm).symm⟩
  · rintro ⟨portal, statement, formats, parameters, results, hp, hs, hok, rfl, rfl⟩
    obtain ⟨hat₁, hat⟩ := at_append.mp (at_self (bindLists formats parameters results))
    obtain ⟨hat₂, hat₃⟩ := at_append.mp hat
    obtain ⟨n₁, off₁, hcount₁, hformats⟩ := (counted_eq_ok fun _ => exact_formatAt).mpr
      ⟨formats, hok.formatsOk.1, (okFrom_const 0).mpr hok.formatsOk.2, hat₁, rfl, rfl⟩
    obtain ⟨n₂, off₂, hcount₂, hparameters⟩ := (counted_eq_ok (exact_parameterAt formats)).mpr
      ⟨parameters, hok.parametersOk.1, hok.parametersOk.2, hat₂, rfl, rfl⟩
    obtain ⟨n₃, off₃, hcount₃, hresults⟩ := (counted_eq_ok fun _ => exact_formatAt).mpr
      ⟨results, hok.resultsOk.1, (okFrom_const 0).mpr hok.resultsOk.2, hat₃, rfl, rfl⟩
    rw [meanFrom_const, List.map_id] at hformats hresults
    refine bind_eq_ok.mpr ⟨_, splitCstring_eq_ok.mpr ⟨hp, rfl⟩, ?_⟩
    refine bind_eq_ok.mpr ⟨_, splitCstring_eq_ok.mpr ⟨hs, rfl⟩, ?_⟩
    refine bind_eq_ok.mpr ⟨_, hcount₁, bind_eq_ok.mpr ⟨_, hformats, ?_⟩⟩
    refine bind_eq_ok.mpr ⟨_, hcount₂, bind_eq_ok.mpr ⟨_, hparameters, ?_⟩⟩
    refine bind_eq_ok.mpr ⟨_, hcount₃, bind_eq_ok.mpr ⟨_, hresults, ?_⟩⟩
    refine bind_eq_ok.mpr ⟨(), atEnd_eq_ok.mpr ?_, rfl⟩
    unfold bindLists
    rw [List.length_append, List.length_append]
    omega

theorem decodeSingleCstring_eq_ok {payload : List UInt8} {s : String} :
    decodeSingleCstring payload = .ok s ↔ NulFree s ∧ payload = cstring s := by
  have hsplit := @splitCstring_eq_ok payload [] s
  rw [List.append_nil, splitCstring_eq] at hsplit
  rw [← hsplit]
  unfold decodeSingleCstring
  cases hnul : payload.findIdx? (· == 0) with
  | none => exact iff_of_false nofun nofun
  | some nul =>
    obtain ⟨hlt, -⟩ := List.findIdx?_eq_some_iff_getElem.mp hnul
    dsimp only
    rw [slice_to (Nat.le_of_lt hlt)]
    have hrest : payload.drop (nul + 1) = [] ↔ nul + 1 = payload.length := by
      rw [List.drop_eq_nil_iff]
      omega
    split_ifs with hend
    · refine iff_of_false nofun fun h => hend (hrest.mp ?_)
      split at h
      · cases h
      · exact (Prod.mk.inj (Except.ok.inj h)).2
    · rw [hrest.mpr (not_not.mp hend), ok_bind]
      split
      · exact iff_of_false nofun nofun
      · exact ⟨fun h => congrArg (fun t => Except.ok (t, [])) (Except.ok.inj h),
          fun h => congrArg Except.ok (Prod.mk.inj (Except.ok.inj h)).1⟩

theorem decodeSingleCstring_never (payload : List UInt8) : decodeSingleCstring payload ≠ .error .panicked := by
  unfold decodeSingleCstring
  cases hnul : payload.findIdx? (· == 0) with
  | none => nofun
  | some nul =>
    obtain ⟨hlt, -⟩ := List.findIdx?_eq_some_iff_getElem.mp hnul
    dsimp only
    rw [slice_to (Nat.le_of_lt hlt), ok_bind]
    split_ifs
    · nofun
    · split
      · nofun
      · nofun

theorem requireEmptyBody_eq_ok {body : List UInt8} : requireEmptyBody body = .ok () ↔ body = [] := by
  cases body with
  | nil => exact iff_of_true rfl rfl
  | cons b body => exact iff_of_false nofun nofun

theorem requireEmptyBody_never (body : List UInt8) : requireEmptyBody body ≠ .error .panicked := by
  cases body with
  | nil => nofun
  | cons b body => nofun

/-- The message of `decode_describe_or_close_body`. -/
def describeOrClose (isDescribe : Bool) (target : UInt8) (name : String) : FrontendMessage :=
  if isDescribe then .describe target name else .close target name

theorem decodeDescribeOrCloseBody_eq_ok {body : List UInt8} {isDescribe : Bool} :
    decodeDescribeOrCloseBody body isDescribe = .ok m ↔ ∃ target name, NulFree name ∧ body = target :: cstring name ∧
      m = describeOrClose isDescribe target name := by
  cases body with
  | nil =>
    refine iff_of_false nofun ?_
    rintro ⟨target, name, -, h, -⟩
    cases h
  | cons target tail =>
    show (splitCstring tail >>= _) = _ ↔ _
    rw [bind_eq_ok]
    constructor
    · rintro ⟨⟨name, rest⟩, hname, h⟩
      obtain ⟨hfree, rfl⟩ := splitCstring_eq_ok.mp hname
      dsimp only at h
      split at h
      · cases h
      · rename_i hrest
        rw [Bool.not_eq_true', Bool.not_eq_false, List.isEmpty_iff] at hrest
        exact ⟨target, name, hfree, by rw [hrest, List.append_nil], (pure_eq_ok.mp h).symm⟩
    · rintro ⟨target', name, hfree, hbody, rfl⟩
      obtain ⟨rfl, rfl⟩ := List.cons.inj hbody
      exact ⟨(name, []), splitCstring_eq_ok.mpr ⟨hfree, (List.append_nil _).symm⟩, rfl⟩

theorem decodeDescribeOrCloseBody_never (body : List UInt8) (isDescribe : Bool) :
    decodeDescribeOrCloseBody body isDescribe ≠ .error .panicked := by
  cases body with
  | nil => nofun
  | cons target tail =>
    intro h
    rcases bind_eq_error.mp h with h | ⟨⟨name, rest⟩, -, h⟩
    · exact splitCstring_never _ h
    · dsimp only at h
      split at h
      · cases h
      · cases h

theorem decodeExecuteBody_eq_ok {body : List UInt8} :
    decodeExecuteBody body = .ok m ↔ ∃ portal maxRows, NulFree portal ∧ body = cstring portal ++ be32 maxRows ∧
      m = .execute portal maxRows := by
  unfold decodeExecuteBody
  rw [bind_eq_ok]
  constructor
  · rintro ⟨⟨portal, rest⟩, hportal, h⟩
    obtain ⟨hfree, rfl⟩ := splitCstring_eq_ok.mp hportal
    dsimp only at h
    split_ifs at h with hlen
    have hlen := not_not.mp hlen
    have hrest := List.IsPrefix.eq_of_length (be32_readI32 (Nat.le_of_eq hlen.symm)) hlen.symm
    exact ⟨portal, readI32 rest, hfree, by rw [hrest], (pure_eq_ok.mp h).symm⟩
  · rintro ⟨portal, maxRows, hfree, rfl, rfl⟩
    refine ⟨(portal, be32 maxRows), splitCstring_eq_ok.mpr ⟨hfree, rfl⟩, ?_⟩
    have hread := readI32_be32 maxRows []
    rw [List.append_nil] at hread
    dsimp only
    rw [hread]
    rfl

theorem decodeExecuteBody_never (body : List UInt8) : decodeExecuteBody body ≠ .error .panicked := by
  intro h
  rcases bind_eq_error.mp h with h | ⟨⟨portal, rest⟩, -, h⟩
  · exact splitCstring_never _ h
  · dsimp only at h
    split_ifs at h
    · cases h
    · cases h

/-! ## Where the decoders panic -/

def ParseNegative (body : List UInt8) : Prop :=
  ∃ statement query, ∃ n : Int16, ∃ tail, NulFree statement ∧ NulFree query ∧ n.toInt < 0 ∧
    body = cstring statement ++ (cstring query ++ (be16 n ++ tail))

theorem decodeParseBody_panics {body : List UInt8} : decodeParseBody body = .error .panicked ↔ ParseNegative body := by
  constructor
  · intro h
    unfold decodeParseBody at h
    rw [bind_eq_error] at h
    rcases h with h | ⟨⟨statement, rest₁⟩, hstatement, h⟩
    · exact absurd h (splitCstring_never _)
    obtain ⟨hs, rfl⟩ := splitCstring_eq_ok.mp hstatement
    dsimp only at h
    rw [bind_eq_error] at h
    rcases h with h | ⟨⟨query, rest⟩, hquery, h⟩
    · exact absurd h (splitCstring_never _)
    obtain ⟨hq, rfl⟩ := splitCstring_eq_ok.mp hquery
    rw [bind_eq_error] at h
    rcases h with h | ⟨⟨n, off⟩, -, h⟩
    · obtain ⟨n, hneg, tail, htail⟩ := countAt_panics.mp h
      rw [List.drop_zero] at htail
      exact ⟨statement, query, n, tail, hs, hq, hneg, by rw [htail]⟩
    dsimp only at h
    rw [bind_eq_error] at h
    rcases h with h | ⟨⟨types, off'⟩, -, h⟩
    · exact absurd h (Never.times (fun _ => i32At_never) _ _ _ _)
    dsimp only at h
    rw [bind_eq_error] at h
    rcases h with h | ⟨_, -, h⟩
    · exact absurd h (atEnd_never _ _)
    · cases h
  · rintro ⟨statement, query, n, tail, hs, hq, hneg, rfl⟩
    refine bind_eq_error.mpr (.inr ⟨_, splitCstring_eq_ok.mpr ⟨hs, rfl⟩, ?_⟩)
    refine bind_eq_error.mpr (.inr ⟨_, splitCstring_eq_ok.mpr ⟨hq, rfl⟩, ?_⟩)
    exact bind_eq_error.mpr (.inl (countAt_panics.mpr ⟨n, hneg, tail, rfl⟩))

/-- What stands in a Bind, behind its names, before one of its counts. -/
inductive BeforeCount : List UInt8 → Prop
  | formats : BeforeCount []
  | parameters {paramFormats : List Int16} (hlen : paramFormats.length ≤ 32767)
      (hformats : ∀ fmt ∈ paramFormats, fmt = 0 ∨ fmt = 1) : BeforeCount (writeList be16 paramFormats)
  | results {paramFormats : List Int16} {parameters : List WireParameter} (hlen : paramFormats.length ≤ 32767)
      (hformats : ∀ fmt ∈ paramFormats, fmt = 0 ∨ fmt = 1) (hparams : parameters.length ≤ 32767)
      (hok : OkFrom (WireParameter.Ok paramFormats) 0 parameters) :
      BeforeCount (writeList be16 paramFormats ++ writeList WireParameter.write parameters)

/-- A Bind one of whose counts is negative, and everything before it in order. -/
def BindNegative (body : List UInt8) : Prop :=
  ∃ portal statement before, ∃ n : Int16, ∃ tail, NulFree portal ∧ NulFree statement ∧ BeforeCount before ∧
    n.toInt < 0 ∧ body = cstring portal ++ (cstring statement ++ (before ++ (be16 n ++ tail)))

theorem decodeBindBody_panics {body : List UInt8} : decodeBindBody body = .error .panicked ↔ BindNegative body := by
  -- a count that stands behind what was read
  have hsplit : ∀ {rest before bytes : List UInt8}, At rest 0 before → At rest (0 + before.length) bytes →
      ∃ tail, rest = before ++ (bytes ++ tail) := by
    intro rest before bytes hbefore hbytes
    obtain ⟨tail, htail⟩ := at_append.mpr ⟨hbefore, hbytes⟩
    exact ⟨tail, by rw [← List.append_assoc]; exact htail.symm⟩
  constructor
  · intro h
    unfold decodeBindBody at h
    rw [bind_eq_error] at h
    rcases h with h | ⟨⟨portal, rest₁⟩, hportal, h⟩
    · exact absurd h (splitCstring_never _)
    obtain ⟨hp, rfl⟩ := splitCstring_eq_ok.mp hportal
    dsimp only at h
    rw [bind_eq_error] at h
    rcases h with h | ⟨⟨statement, rest⟩, hstatement, h⟩
    · exact absurd h (splitCstring_never _)
    obtain ⟨hs, rfl⟩ := splitCstring_eq_ok.mp hstatement
    dsimp only at h
    -- the parameter formats
    rw [bind_eq_error] at h
    rcases h with h | ⟨⟨n₁, off₁⟩, hcount₁, h⟩
    · obtain ⟨n, hneg, tail, htail⟩ := countAt_panics.mp h
      exact ⟨portal, statement, [], n, tail, hp, hs, .formats, hneg, by rw [htail]; rfl⟩
    dsimp only at h
    rw [bind_eq_error] at h
    rcases h with h | ⟨⟨formats, off₂⟩, hformats, h⟩
    · exact absurd h (Never.times (fun _ => formatAt_never) _ _ _ _)
    obtain ⟨as₁, hlen₁, hok₁, hat₁, rfl, rfl⟩ := (counted_eq_ok fun _ => exact_formatAt).mp ⟨_, _, hcount₁, hformats⟩
    rw [okFrom_const] at hok₁
    rw [meanFrom_const, List.map_id] at h
    -- the parameters
    rw [bind_eq_error] at h
    rcases h with h | ⟨⟨n₂, off₃⟩, hcount₂, h⟩
    · obtain ⟨n, hneg, hat⟩ := countAt_panics.mp h
      obtain ⟨tail, rfl⟩ := hsplit hat₁ hat
      exact ⟨portal, statement, _, n, tail, hp, hs, .parameters hlen₁ hok₁, hneg, rfl⟩
    dsimp only at h
    rw [bind_eq_error] at h
    rcases h with h | ⟨⟨parameters, off₄⟩, hparameters, h⟩
    · exact absurd h (Never.times (parameterAt_never _) _ _ _ _)
    obtain ⟨as₂, hlen₂, hok₂, hat₂, rfl, rfl⟩ := (counted_eq_ok (exact_parameterAt _)).mp ⟨_, _, hcount₂, hparameters⟩
    -- the formats of the results
    dsimp only at h
    rw [bind_eq_error] at h
    rcases h with h | ⟨⟨n₃, off₅⟩, hcount₃, h⟩
    · obtain ⟨n, hneg, hat⟩ := countAt_panics.mp h
      rw [Nat.add_assoc, ← List.length_append] at hat
      obtain ⟨tail, rfl⟩ := hsplit (at_append.mpr ⟨hat₁, hat₂⟩) hat
      exact ⟨portal, statement, _, n, tail, hp, hs, .results hlen₁ hok₁ hlen₂ hok₂, hneg, rfl⟩
    dsimp only at h
    rw [bind_eq_error] at h
    rcases h with h | ⟨⟨results, off₆⟩, hresults, h⟩
    · exact absurd h (Never.times (fun _ => formatAt_never) _ _ _ _)
    dsimp only at h
    rw [bind_eq_error] at h
    rcases h with h | ⟨_, -, h⟩
    · exact absurd h (atEnd_never _ _)
    · cases h
  · rintro ⟨portal, statement, before, n, tail, hp, hs, hbefore, hneg, rfl⟩
    refine bind_eq_error.mpr (.inr ⟨_, splitCstring_eq_ok.mpr ⟨hp, rfl⟩, ?_⟩)
    refine bind_eq_error.mpr (.inr ⟨_, splitCstring_eq_ok.mpr ⟨hs, rfl⟩, ?_⟩)
    generalize hrest : before ++ (be16 n ++ tail) = rest
    have hself : At rest 0 (before ++ (be16 n ++ tail)) := hrest ▸ at_self rest
    have hcount : ∀ {off}, At rest off (be16 n) → countAt rest off = .error .panicked :=
      fun hat => countAt_panics.mpr ⟨n, hneg, hat⟩
    dsimp only
    cases hbefore with
    | formats => exact bind_eq_error.mpr (.inl (hcount (at_append.mp (at_append.mp hself).2).1))
    | parameters hlen hformats =>
      obtain ⟨hat₁, hat⟩ := at_append.mp hself
      obtain ⟨n₁, off₁, hcount₁, htimes₁⟩ := (counted_eq_ok fun _ => exact_formatAt).mpr
        ⟨_, hlen, (okFrom_const 0).mpr hformats, hat₁, rfl, rfl⟩
      refine bind_eq_error.mpr (.inr ⟨_, hcount₁, bind_eq_error.mpr (.inr ⟨_, htimes₁, ?_⟩)⟩)
      exact bind_eq_error.mpr (.inl (hcount (at_append.mp hat).1))
    | results hlen hformats hparams hok =>
      rw [List.append_assoc] at hself
      obtain ⟨hat₁, hat⟩ := at_append.mp hself
      obtain ⟨hat₂, hat⟩ := at_append.mp hat
      obtain ⟨n₁, off₁, hcount₁, htimes₁⟩ := (counted_eq_ok fun _ => exact_formatAt).mpr
        ⟨_, hlen, (okFrom_const 0).mpr hformats, hat₁, rfl, rfl⟩
      obtain ⟨n₂, off₂, hcount₂, htimes₂⟩ := (counted_eq_ok (exact_parameterAt _)).mpr
        ⟨_, hparams, hok, hat₂, rfl, rfl⟩
      rw [meanFrom_const, List.map_id] at htimes₁
      refine bind_eq_error.mpr (.inr ⟨_, hcount₁, bind_eq_error.mpr (.inr ⟨_, htimes₁, ?_⟩)⟩)
      refine bind_eq_error.mpr (.inr ⟨_, hcount₂, bind_eq_error.mpr (.inr ⟨_, htimes₂, ?_⟩)⟩)
      exact bind_eq_error.mpr (.inl (hcount (at_append.mp hat).1))

end DataNexus.PgMessages
