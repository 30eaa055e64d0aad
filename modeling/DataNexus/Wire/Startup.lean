/-
  The first frame of a PostgreSQL client (`protocol/postgresql/src/lib.rs`: `decode_startup_packet`,
  `decode_startup_parameters`, `encode_startup_message`, `encode_cancel_request`), and what decoding gives back.

  The first frame has no tag: a request for TLS, a request to cancel, or names and values; the last value of a name counts.

  * `decodeStartupPacket_eq_ok`, `decodeStartupPacket_never` — the accepted frames, and no panic on the others;
  * `decode_wire` — a message is decoded from its layout iff its length can be declared and its formats are known;
  * `decoding_exact_iff` — when the decoders of this crate do what the protocol has.
-/
import DataNexus.Wire.Grammar
import Mathlib.Logic.Function.Basic

namespace DataNexus.PgMessages

open Fallible Layout Utf8

/-! ## The code -/

def protocolVersion3 : Int32 := 196608

def sslRequestCode : Int32 := 80877103

def cancelRequestCode : Int32 := 80877102

def maxStartupPacketLen : Nat := 1024 * 1024

abbrev Parameters := String → Option String

def Parameters.insert (parameters : Parameters) (key value : String) : Parameters :=
  Function.update parameters key (some value)

inductive StartupPacket where
  | startup (protocolVersion : Int32) (parameters : Parameters)
  | sslRequest
  | cancelRequest (processId secretKey : Int32)

def findNull (payload : List UInt8) : Option Nat := payload.findIdx? (· == 0)

def decodeUtf8 (bytes : List UInt8) : Except Failure String :=
  match fromUtf8 bytes with
  | some s => .ok s
  | none => .error (.error .invalidUtf8)

/-- The loop of `decode_startup_parameters`, on the payload from the offset on. -/
def startupLoop (rest : List UInt8) (parameters : Parameters) : Except Failure Parameters :=
  if hend : rest = [] then .error (.error .missingTerminator)
  else
    match findNull rest with
    | none => .error (.error .missingTerminator)
    | some keyEnd =>
      if keyEnd = 0 then
        if keyEnd + 1 ≠ rest.length then .error (.error .malformedStartupParameters) else .ok parameters
      else do
        match findNull (← slice rest (keyEnd + 1) rest.length) with
        | none => .error (.error .missingTerminator)
        | some valueEnd =>
          let key ← decodeUtf8 (← slice rest 0 keyEnd)
          let value ← decodeUtf8 (← slice rest (keyEnd + 1) (keyEnd + 1 + valueEnd))
          startupLoop (rest.drop (keyEnd + 1 + (valueEnd + 1))) (parameters.insert key value)
termination_by rest.length
decreasing_by
  rw [List.length_drop]
  have := List.length_pos_of_ne_nil hend
  omega

def decodeStartupParameters (payload : List UInt8) : Except Failure Parameters :=
  if payload.getLast? ≠ some 0 then .error (.error .missingTerminator) else startupLoop payload fun _ => none

def startupPacketOf (code : Int32) (frame : List UInt8) (declaredLen : Nat) : Except Failure StartupPacket :=
  if code = sslRequestCode then
    if declaredLen ≠ 8 then .error (.error (.invalidLength (some 8) declaredLen)) else .ok .sslRequest
  else if code = cancelRequestCode then
    if declaredLen ≠ 16 then .error (.error (.invalidLength (some 16) declaredLen))
    else do return .cancelRequest (readI32 (← slice frame 8 12)) (readI32 (← slice frame 12 16))
  else if code = protocolVersion3 then do
    return .startup protocolVersion3 (← decodeStartupParameters (← slice frame 8 frame.length))
  else .error (.error (.invalidProtocolVersion code))

def decodeStartupPacket (frame : List UInt8) : Except Failure StartupPacket :=
  if frame.length < 8 ∨ frame.length > maxStartupPacketLen then .error (.error (.invalidLength none frame.length))
  else do
    let declaredLen := readI32 (← slice frame 0 4)
    if declaredLen.toInt < 8 then .error (.error (.invalidLength none declaredLen.toNatClampNeg))
    else if declaredLen.toNatClampNeg ≠ frame.length then
      .error (.error (.invalidLength (some declaredLen.toNatClampNeg) frame.length))
    else
      let code := readI32 (← slice frame 4 8)
      startupPacketOf code frame declaredLen.toNatClampNeg

def encodeUntaggedPacket (body : List UInt8) : List UInt8 := be32 (Int32.ofNat (body.length + 4)) ++ body

def parameterPair (p : String × String) : List UInt8 := cstring p.1 ++ cstring p.2

def encodeStartupMessage (parameters : List (String × String)) : List UInt8 :=
  encodeUntaggedPacket (be32 protocolVersion3 ++ (parameters.flatMap parameterPair ++ [0]))

def encodeCancelRequest (processId secretKey : Int32) : List UInt8 :=
  encodeUntaggedPacket (be32 cancelRequestCode ++ (be32 processId ++ be32 secretKey))

/-! ## The parameters -/

def PairOk (p : String × String) : Prop := p.1 ≠ "" ∧ NulFree p.1 ∧ NulFree p.2

def insertAll (parameters : Parameters) (pairs : List (String × String)) : Parameters :=
  pairs.foldl (fun m p => m.insert p.1 p.2) parameters

theorem toUtf8_eq_nil {s : String} : toUtf8 s = [] ↔ s = "" := toUtf8_inj (t := "")

theorem decodeUtf8_never (bytes : List UInt8) : decodeUtf8 bytes ≠ .error .panicked := by
  unfold decodeUtf8
  split
  · nofun
  · nofun

variable {input : List UInt8} {nul keyEnd : Nat} {p : StartupPacket} {paramFormats : List Int16}

theorem findNull_lt (h : findNull input = some nul) : nul < input.length := (List.findIdx?_eq_some_iff_getElem.mp h).1

theorem splitCstring_of_findNull (h : findNull input = some nul) :
    splitCstring input = (decodeUtf8 (input.take nul) >>= fun s => pure (s, input.drop (nul + 1))) := by
  unfold findNull at h
  rw [splitCstring_eq, h]
  unfold decodeUtf8
  dsimp only
  split
  · rename_i hs
    rw [hs]
    rfl
  · rename_i s hs
    rw [hs]
    rfl

theorem startupLoop_eq {rest : List UInt8} (hnull : findNull rest = some keyEnd) (hpos : keyEnd ≠ 0)
    (parameters : Parameters) : startupLoop rest parameters = match findNull (rest.drop (keyEnd + 1)) with
      | none => .error (.error .missingTerminator)
      | some valueEnd =>
        decodeUtf8 (rest.take keyEnd) >>= fun key =>
          decodeUtf8 ((rest.drop (keyEnd + 1)).take valueEnd) >>= fun value =>
            startupLoop ((rest.drop (keyEnd + 1)).drop (valueEnd + 1)) (parameters.insert key value) := by
  have hlt := findNull_lt hnull
  have hne : rest ≠ [] := List.ne_nil_of_length_pos (by omega)
  rw [startupLoop, dif_neg hne, hnull]
  dsimp only
  rw [if_neg hpos, slice_from hlt, slice_to (Nat.le_of_lt hlt), ok_bind]
  cases hvalue : findNull (rest.drop (keyEnd + 1)) with
  | none => rfl
  | some valueEnd =>
    have hlt' := findNull_lt hvalue
    rw [List.length_drop] at hlt'
    dsimp only
    rw [slice_eq_ok (Nat.le_add_right _ _) (by omega), Nat.add_sub_cancel_left, List.drop_drop]
    rfl

theorem startupLoop_name {rest : List UInt8} (hnull : findNull rest = some keyEnd) (hpos : keyEnd ≠ 0)
    {parameters out : Parameters} :
    startupLoop rest parameters = .ok out ↔ ∃ key value tail rest', splitCstring rest = .ok (key, tail) ∧
      splitCstring tail = .ok (value, rest') ∧ startupLoop rest' (parameters.insert key value) = .ok out := by
  rw [startupLoop_eq hnull hpos, splitCstring_of_findNull hnull]
  cases hvalue : findNull (rest.drop (keyEnd + 1)) with
  | none =>
    refine iff_of_false nofun ?_
    rintro ⟨key, value, tail, rest', hkey, htail, -⟩
    obtain ⟨_, -, hpair⟩ := bind_eq_ok.mp hkey
    obtain ⟨rfl, rfl⟩ := Prod.mk.inj (pure_eq_ok.mp hpair)
    unfold findNull at hvalue
    rw [splitCstring_eq, hvalue] at htail
    cases htail
  | some valueEnd =>
    dsimp only
    simp only [bind_eq_ok, pure_eq_ok, Prod.mk.injEq]
    constructor
    · rintro ⟨key, hkey, value, hval, hrest⟩
      refine ⟨key, value, _, _, ⟨key, hkey, rfl, rfl⟩, ?_, hrest⟩
      rw [splitCstring_of_findNull hvalue]
      exact bind_eq_ok.mpr ⟨value, hval, rfl⟩
    · rintro ⟨key, value, tail, rest', ⟨_, hkey, rfl, rfl⟩, htail, hrest⟩
      rw [splitCstring_of_findNull hvalue] at htail
      obtain ⟨_, hval, hpair⟩ := bind_eq_ok.mp htail
      obtain ⟨rfl, rfl⟩ := Prod.mk.inj (pure_eq_ok.mp hpair)
      exact ⟨_, hkey, _, hval, hrest⟩

theorem startupLoop_end {rest : List UInt8} (hnull : findNull rest = some 0) {parameters out : Parameters} :
    startupLoop rest parameters = .ok out ↔ rest = [0] ∧ parameters = out := by
  obtain ⟨hlt, hzero, -⟩ := List.findIdx?_eq_some_iff_getElem.mp hnull
  match rest, hlt with
  | b :: tail, _ =>
    obtain rfl : b = 0 := eq_of_beq hzero
    rw [startupLoop, dif_neg (List.cons_ne_nil _ _), hnull]
    dsimp only
    rw [if_pos rfl]
    split_ifs with hlen
    · refine iff_of_false nofun ?_
      rintro ⟨heq, -⟩
      obtain ⟨-, rfl⟩ := List.cons.inj heq
      exact hlen rfl
    · obtain rfl : tail = [] := List.length_eq_zero_iff.mp (by simpa using hlen)
      exact ⟨fun h => ⟨rfl, Except.ok.inj h⟩, fun h => congrArg Except.ok h.2⟩

theorem findNull_cstring (s : String) (hs : NulFree s) (rest : List UInt8) :
    findNull (cstring s ++ rest) = some (toUtf8 s).length := by
  cases hnull : findNull (cstring s ++ rest) with
  | none =>
    have := List.findIdx?_eq_none_iff.mp hnull 0 (by unfold cstring; simp)
    cases this
  | some nul =>
    have hread : splitCstring (cstring s ++ rest) = .ok (s, rest) := splitCstring_eq_ok.mpr ⟨hs, rfl⟩
    rw [splitCstring_of_findNull hnull] at hread
    obtain ⟨_, -, hpair⟩ := bind_eq_ok.mp hread
    have hrest := congrArg List.length (Prod.mk.inj (pure_eq_ok.mp hpair)).2
    have hlt := findNull_lt hnull
    unfold cstring at hrest hlt
    simp only [List.length_drop, List.length_append, List.length_singleton] at hrest hlt
    congr 1
    omega

/-- **The parameters**: names that are not empty and their values, and a NUL. -/
theorem startupLoop_eq_ok {rest : List UInt8} {parameters out : Parameters} :
    startupLoop rest parameters = .ok out ↔ ∃ pairs : List (String × String), (∀ p ∈ pairs, PairOk p) ∧
      rest = pairs.flatMap parameterPair ++ [0] ∧ insertAll parameters pairs = out := by
  constructor
  · -- along the loop: each round reads a pair, and the rest is shorter
    induction hn : rest.length using Nat.strongRecOn generalizing rest parameters with
    | ind n ih =>
      intro h
      cases hnull : findNull rest with
      | none =>
        rw [startupLoop, hnull] at h
        split_ifs at h
      | some keyEnd =>
        by_cases hpos : keyEnd = 0
        · subst hpos
          obtain ⟨rfl, rfl⟩ := (startupLoop_end hnull).mp h
          exact ⟨[], nofun, rfl, rfl⟩
        · obtain ⟨key, value, tail, rest', hkey, hvalue, hrest⟩ := (startupLoop_name hnull hpos).mp h
          obtain ⟨hkeyFree, rfl⟩ := splitCstring_eq_ok.mp hkey
          obtain ⟨hvalueFree, rfl⟩ := splitCstring_eq_ok.mp hvalue
          have hshort : rest'.length < n := by
            rw [← hn, List.length_append, List.length_append]
            unfold cstring
            rw [List.length_append, List.length_singleton]
            omega
          have hname : key ≠ "" := by
            rintro rfl
            rw [findNull_cstring "" hkeyFree] at hnull
            exact hpos (Option.some.inj hnull).symm
          obtain ⟨pairs, hpairs, rfl, rfl⟩ := ih rest'.length hshort rfl hrest
          refine ⟨(key, value) :: pairs, List.forall_mem_cons.mpr ⟨⟨hname, hkeyFree, hvalueFree⟩, hpairs⟩, ?_, rfl⟩
          rw [List.flatMap_cons]
          unfold parameterPair
          rw [List.append_assoc, List.append_assoc]
  · rintro ⟨pairs, hpairs, rfl, rfl⟩
    induction pairs generalizing parameters with
    | nil => exact (startupLoop_end rfl).mpr ⟨rfl, rfl⟩
    | cons p pairs ih =>
      rw [List.forall_mem_cons] at hpairs
      obtain ⟨⟨hname, hkeyFree, hvalueFree⟩, hpairs⟩ := hpairs
      have hbytes : (p :: pairs).flatMap parameterPair ++ [0] =
          cstring p.1 ++ (cstring p.2 ++ (pairs.flatMap parameterPair ++ [0])) := by
        rw [List.flatMap_cons]
        unfold parameterPair
        rw [List.append_assoc, List.append_assoc]
      rw [hbytes]
      have hlen : (toUtf8 p.1).length ≠ 0 := fun h => hname (toUtf8_eq_nil.mp (List.length_eq_zero_iff.mp h))
      rw [startupLoop_name (findNull_cstring p.1 hkeyFree _) hlen]
      exact ⟨p.1, p.2, _, _, splitCstring_eq_ok.mpr ⟨hkeyFree, rfl⟩, splitCstring_eq_ok.mpr ⟨hvalueFree, rfl⟩, ih hpairs⟩

theorem startupLoop_never (rest : List UInt8) (parameters : Parameters) :
    startupLoop rest parameters ≠ .error .panicked := by
  induction hn : rest.length using Nat.strongRecOn generalizing rest parameters with
  | ind n ih =>
    cases hnull : findNull rest with
    | none =>
      rw [startupLoop, hnull]
      split_ifs
      · nofun
      · nofun
    | some keyEnd =>
      have hlt := findNull_lt hnull
      by_cases hpos : keyEnd = 0
      · subst hpos
        rw [startupLoop, hnull]
        dsimp only
        rw [if_pos rfl]
        split_ifs
        · nofun
        · nofun
        · nofun
      · rw [startupLoop_eq hnull hpos]
        cases hvalue : findNull (rest.drop (keyEnd + 1)) with
        | none => nofun
        | some valueEnd =>
          intro h
          rcases bind_eq_error.mp h with h | ⟨key, -, h⟩
          · exact decodeUtf8_never _ h
          rcases bind_eq_error.mp h with h | ⟨value, -, h⟩
          · exact decodeUtf8_never _ h
          · refine ih _ ?_ _ _ rfl h
            rw [List.length_drop, List.length_drop]
            omega

theorem decodeStartupParameters_eq_ok {payload : List UInt8} {out : Parameters} :
    decodeStartupParameters payload = .ok out ↔ ∃ pairs : List (String × String), (∀ p ∈ pairs, PairOk p) ∧
      payload = pairs.flatMap parameterPair ++ [0] ∧ insertAll (fun _ => none) pairs = out := by
  unfold decodeStartupParameters
  rw [← startupLoop_eq_ok]
  split_ifs with hlast
  · refine iff_of_false nofun fun h => ?_
    obtain ⟨pairs, -, rfl, -⟩ := startupLoop_eq_ok.mp h
    exact hlast (by rw [List.getLast?_append]; rfl)
  · exact Iff.rfl

theorem decodeStartupParameters_never (payload : List UInt8) : decodeStartupParameters payload ≠ .error .panicked := by
  unfold decodeStartupParameters
  split_ifs
  · nofun
  · exact startupLoop_never _ _

/-! ## The first frame -/

inductive WireStartup where
  | startup (parameters : List (String × String))
  | sslRequest
  | cancelRequest (processId secretKey : Int32)

namespace WireStartup

def code : WireStartup → Int32
  | .startup _ => protocolVersion3
  | .sslRequest => sslRequestCode
  | .cancelRequest _ _ => cancelRequestCode

def rest : WireStartup → List UInt8
  | .startup parameters => parameters.flatMap parameterPair ++ [0]
  | .sslRequest => []
  | .cancelRequest processId secretKey => be32 processId ++ be32 secretKey

def layout (w : WireStartup) : List UInt8 := encodeUntaggedPacket (be32 w.code ++ w.rest)

def Accepted : WireStartup → Prop
  | .startup parameters => ∀ p ∈ parameters, PairOk p
  | _ => True

def mean : WireStartup → StartupPacket
  | .startup parameters => .startup protocolVersion3 (insertAll (fun _ => none) parameters)
  | .sslRequest => .sslRequest
  | .cancelRequest processId secretKey => .cancelRequest processId secretKey

end WireStartup

theorem length_untagged (code : Int32) (rest : List UInt8) :
    (encodeUntaggedPacket (be32 code ++ rest)).length = rest.length + 8 := by
  unfold encodeUntaggedPacket
  rw [List.length_append, List.length_append, length_be32, length_be32]
  omega

theorem decode_untagged {code : Int32} {rest : List UInt8} (h : rest.length + 8 ≤ maxStartupPacketLen) :
    decodeStartupPacket (encodeUntaggedPacket (be32 code ++ rest)) =
      startupPacketOf code (encodeUntaggedPacket (be32 code ++ rest)) (rest.length + 8) := by
  have hmax : maxStartupPacketLen = 1048576 := rfl
  have hlen := length_untagged code rest
  have hbody : (be32 code ++ rest).length + 4 = rest.length + 8 := by
    rw [List.length_append, length_be32]
    omega
  have hint : (Int32.ofNat (rest.length + 8)).toInt = (rest.length + 8 : Nat) := Int32.toInt_ofNat_of_lt (by omega)
  have hnat : (Int32.ofNat (rest.length + 8)).toNatClampNeg = rest.length + 8 :=
    Int32.toNatClampNeg_ofNat_of_lt (by omega)
  have hword : slice (encodeUntaggedPacket (be32 code ++ rest)) 0 4 = .ok (be32 (Int32.ofNat (rest.length + 8))) := by
    rw [slice_to (by omega)]
    unfold encodeUntaggedPacket
    rw [hbody]
    rfl
  have hcode : slice (encodeUntaggedPacket (be32 code ++ rest)) 4 8 = .ok (be32 code) :=
    slice_eq_ok (by omega) (by omega)
  have hread := fun n => readI32_be32 n []
  simp only [List.append_nil] at hread
  unfold decodeStartupPacket
  rw [if_neg (by omega), hword, ok_bind]
  dsimp only
  rw [hread, if_neg (by omega), hnat, if_neg (by omega), hcode, ok_bind, hread]

theorem startup_refused_or_framed (frame : List UInt8) : (∃ e, decodeStartupPacket frame = .error (.error e)) ∨
    ∃ code rest, rest.length + 8 ≤ maxStartupPacketLen ∧ frame = encodeUntaggedPacket (be32 code ++ rest) := by
  have hmax : maxStartupPacketLen = 1048576 := rfl
  unfold decodeStartupPacket
  split_ifs with hsize
  · exact .inl ⟨_, rfl⟩
  · obtain ⟨tail, htail⟩ := be32_readI32 (show 4 ≤ frame.length by omega)
    have hlen := congrArg List.length htail
    rw [List.length_append, length_be32] at hlen
    obtain ⟨rest, hrest⟩ := be32_readI32 (show 4 ≤ tail.length by omega)
    have hlen' := congrArg List.length hrest
    rw [List.length_append, length_be32] at hlen'
    rw [slice_to (by omega), ok_bind]
    dsimp only
    rw [readI32_take]
    generalize readI32 frame = declared at htail
    split_ifs with hsmall hother
    · exact .inl ⟨_, rfl⟩
    · exact .inl ⟨_, rfl⟩
    · have hother := not_not.mp hother
      have hdeclared : Int32.ofNat (rest.length + 8) = declared := by
        rw [show rest.length + 8 = declared.toNatClampNeg by omega]
        exact Int32.ofNat_toNatClampNeg declared (Int32.le_iff_toInt_le.mpr (by show 0 ≤ declared.toInt; omega))
      refine .inr ⟨readI32 tail, rest, by omega, ?_⟩
      unfold encodeUntaggedPacket
      rw [List.length_append, length_be32, show 4 + rest.length + 4 = rest.length + 8 by omega, hdeclared, hrest, htail]

theorem slice_cancel (code : Int32) {a b : List UInt8} (ha : a.length = 4) (hb : b.length = 4) :
    slice (encodeUntaggedPacket (be32 code ++ (a ++ b))) 8 12 = .ok a ∧
      slice (encodeUntaggedPacket (be32 code ++ (a ++ b))) 12 16 = .ok b := by
  have hlen := length_untagged code (a ++ b)
  rw [List.length_append] at hlen
  match a, ha, b, hb with
  | [a₀, a₁, a₂, a₃], _, [b₀, b₁, b₂, b₃], _ =>
    exact ⟨slice_eq_ok (by omega) (by rw [hlen]; exact Nat.le_add_left _ _), slice_eq_ok (by omega) (Nat.le_of_eq hlen.symm)⟩

theorem slice_rest (code : Int32) (rest : List UInt8) :
    slice (encodeUntaggedPacket (be32 code ++ rest)) 8 (encodeUntaggedPacket (be32 code ++ rest)).length = .ok rest :=
  slice_from (by rw [length_untagged]; omega)

/-- **The packets that a code allows.** -/
theorem startupPacketOf_eq_ok {code : Int32} {rest : List UInt8} :
    startupPacketOf code (encodeUntaggedPacket (be32 code ++ rest)) (rest.length + 8) = .ok p ↔
      ∃ w : WireStartup, w.Accepted ∧ w.code = code ∧ w.rest = rest ∧ w.mean = p := by
  have hread := fun n => readI32_be32 n []
  simp only [List.append_nil] at hread
  constructor
  · intro h
    unfold startupPacketOf at h
    split_ifs at h with hssl hlen hcancel hlen hversion
    · have hempty := List.length_eq_zero_iff.mp (Nat.add_right_cancel (not_not.mp hlen) : rest.length = 0)
      exact ⟨.sslRequest, trivial, hssl.symm, hempty.symm, Except.ok.inj h⟩
    · have hrest : rest.length = 8 := Nat.add_right_cancel (not_not.mp hlen)
      obtain ⟨tail, htail⟩ := be32_readI32 (show 4 ≤ rest.length by omega)
      have hlen' := congrArg List.length htail
      rw [List.length_append, length_be32] at hlen'
      have htail' := List.IsPrefix.eq_of_length (be32_readI32 (show 4 ≤ tail.length by omega))
        (by rw [length_be32]; omega)
      rw [← htail] at h
      obtain ⟨hpid, hkey⟩ := slice_cancel code (length_be32 (readI32 rest)) (show tail.length = 4 by omega)
      rw [hpid, hkey, ok_bind, ok_bind, hread] at h
      refine ⟨.cancelRequest (readI32 rest) (readI32 tail), trivial, hcancel.symm, ?_, pure_eq_ok.mp h⟩
      show be32 (readI32 rest) ++ be32 (readI32 tail) = rest
      rw [htail', htail]
    · rw [slice_rest, ok_bind] at h
      obtain ⟨out, hout, hp⟩ := bind_eq_ok.mp h
      obtain ⟨pairs, hpairs, rfl, rfl⟩ := decodeStartupParameters_eq_ok.mp hout
      exact ⟨.startup pairs, hpairs, hversion.symm, rfl, pure_eq_ok.mp hp⟩
  · rintro ⟨w, hw, rfl, rfl, rfl⟩
    cases w with
    | sslRequest => rfl
    | cancelRequest processId secretKey =>
      obtain ⟨hpid, hkey⟩ := slice_cancel cancelRequestCode (length_be32 processId) (length_be32 secretKey)
      show startupPacketOf cancelRequestCode
        (encodeUntaggedPacket (be32 cancelRequestCode ++ (be32 processId ++ be32 secretKey))) 16 = _
      unfold startupPacketOf
      rw [if_neg (by decide), if_pos rfl, if_neg (by decide), hpid, hkey, ok_bind, ok_bind, hread, hread]
      rfl
    | startup parameters =>
      show startupPacketOf protocolVersion3
        (encodeUntaggedPacket (be32 protocolVersion3 ++ (parameters.flatMap parameterPair ++ [0]))) _ = _
      unfold startupPacketOf
      rw [if_neg (by decide), if_neg (by decide), if_pos rfl, slice_rest, ok_bind]
      exact bind_eq_ok.mpr ⟨_, decodeStartupParameters_eq_ok.mpr ⟨parameters, hw, rfl, rfl⟩, rfl⟩

theorem startupPacketOf_never {code : Int32} {rest : List UInt8} :
    startupPacketOf code (encodeUntaggedPacket (be32 code ++ rest)) (rest.length + 8) ≠ .error .panicked := by
  unfold startupPacketOf
  split_ifs with hssl hlen hcancel hlen hversion
  · nofun
  · nofun
  · nofun
  · have hlen' := length_untagged code rest
    have hrest := not_not.mp hlen
    rw [slice_eq_ok (by omega) (by omega), slice_eq_ok (by omega) (by omega), ok_bind, ok_bind]
    nofun
  · rw [slice_rest, ok_bind]
    intro h
    rcases bind_eq_error.mp h with h | ⟨_, -, h⟩
    · exact decodeStartupParameters_never _ h
    · cases h
  · nofun

/-- **The accepted first frames.** -/
theorem decodeStartupPacket_eq_ok {frame : List UInt8} : decodeStartupPacket frame = .ok p ↔
      ∃ w : WireStartup, w.Accepted ∧ w.layout.length ≤ maxStartupPacketLen ∧ frame = w.layout ∧ w.mean = p := by
  constructor
  · intro h
    rcases startup_refused_or_framed frame with ⟨e, he⟩ | ⟨code, rest, hsize, rfl⟩
    · rw [he] at h
      cases h
    · rw [decode_untagged hsize] at h
      obtain ⟨w, hw, rfl, rfl, hp⟩ := startupPacketOf_eq_ok.mp h
      refine ⟨w, hw, ?_, rfl, hp⟩
      unfold WireStartup.layout
      rw [length_untagged]
      exact hsize
  · rintro ⟨w, hw, hsize, rfl, rfl⟩
    unfold WireStartup.layout at hsize ⊢
    rw [length_untagged] at hsize
    rw [decode_untagged hsize]
    exact startupPacketOf_eq_ok.mpr ⟨w, hw, rfl, rfl, rfl⟩

/-- **No first frame makes the decoder panic.** -/
theorem decodeStartupPacket_never (frame : List UInt8) : decodeStartupPacket frame ≠ .error .panicked := by
  intro h
  rcases startup_refused_or_framed frame with ⟨e, he⟩ | ⟨code, rest, hsize, rfl⟩
  · rw [he] at h
    cases h
  · rw [decode_untagged hsize] at h
    exact startupPacketOf_never h

theorem insertAll_eq_some {pairs : List (String × String)} (hnodup : (pairs.map Prod.fst).Nodup)
    {parameters : Parameters} (hfresh : ∀ p ∈ pairs, parameters p.1 = none) {name value : String} :
    insertAll parameters pairs name = some value ↔ parameters name = some value ∨ (name, value) ∈ pairs := by
  induction pairs generalizing parameters with
  | nil => exact ⟨.inl, fun h => h.elim id nofun⟩
  | cons p pairs ih =>
    rw [List.map_cons, List.nodup_cons] at hnodup
    rw [List.forall_mem_cons] at hfresh
    have hne : ∀ q ∈ pairs, q.1 ≠ p.1 := fun q hq heq => hnodup.1 (List.mem_map.mpr ⟨q, hq, heq⟩)
    have hfresh' : ∀ q ∈ pairs, (parameters.insert p.1 p.2) q.1 = none := fun q hq =>
      (Function.update_of_ne (hne q hq) _ _).trans (hfresh.2 q hq)
    have hcons : insertAll parameters (p :: pairs) = insertAll (parameters.insert p.1 p.2) pairs := rfl
    rw [hcons, ih hnodup.2 hfresh', List.mem_cons]
    unfold Parameters.insert
    by_cases hname : name = p.1
    · subst hname
      rw [Function.update_self, hfresh.1, Option.some.injEq]
      constructor
      · rintro (rfl | h)
        · exact .inr (.inl rfl)
        · exact .inr (.inr h)
      · rintro (h | h | h)
        · cases h
        · exact .inl (congrArg Prod.snd h).symm
        · exact .inr h
    · rw [Function.update_of_ne hname]
      constructor
      · rintro (h | h)
        · exact .inl h
        · exact .inr (.inr h)
      · rintro (h | h | h)
        · exact .inl h
        · exact absurd (congrArg Prod.fst h) hname
        · exact .inr h

/-! ## Decoding gives a message back -/

def WireParameter.ofText : Option String → WireParameter
  | none => .null (-1)
  | some text => .value (toUtf8 text)

/-- The layout of a message value; a Bind lays out its parameters as texts. -/
def FrontendMessage.wire (paramFormats : List Int16) : FrontendMessage → WireMessage
  | .query sql => .query sql
  | .terminate => .terminate
  | .sync => .sync
  | .parse statement sql paramTypes => .parse statement sql paramTypes
  | .bind portal statement parameters resultFormats =>
    .bind portal statement paramFormats (parameters.map WireParameter.ofText) resultFormats
  | .describe target name => .describe target name
  | .execute portal maxRows => .execute portal maxRows
  | .close target name => .close target name
  | .flush => .flush

/-- At most 32767 items in a list, and no NUL in a string. -/
def FrontendMessage.Writable : FrontendMessage → Prop
  | .query sql => NulFree sql
  | .parse statement sql paramTypes => NulFree statement ∧ NulFree sql ∧ paramTypes.length ≤ 32767
  | .bind portal statement parameters resultFormats =>
    NulFree portal ∧ NulFree statement ∧ parameters.length ≤ 32767 ∧ (∀ text, some text ∈ parameters → NulFree text) ∧
      resultFormats.length ≤ 32767
  | .describe _ name => NulFree name
  | .execute portal _ => NulFree portal
  | .close _ name => NulFree name
  | _ => True

/-- The formats of the results are text and binary. -/
def FrontendMessage.FormatsKnown : FrontendMessage → Prop
  | .bind _ _ _ resultFormats => ∀ fmt ∈ resultFormats, fmt = 0 ∨ fmt = 1
  | _ => True

theorem parameterText_text {text : String} (h : NulFree text) : parameterText 0 (toUtf8 text) = .ok text := by
  have hany : (toUtf8 text).any (· == 0) = false := by
    rw [List.any_eq_false]
    intro b hb hzero
    exact h (zero_mem_toUtf8.mp (eq_of_beq hzero ▸ hb))
  unfold parameterText
  rw [if_pos rfl, hany, fromUtf8_toUtf8]
  rfl

theorem formatOf_text (h : ∀ fmt ∈ paramFormats, fmt = 0) (i : Nat) : formatOf paramFormats i = 0 := by
  match paramFormats, h with
  | [], _ => rfl
  | [fmt], h => exact h fmt List.mem_cons_self
  | f :: g :: rest, h =>
    show (f :: g :: rest).getD i 0 = 0
    rw [List.getD_eq_getElem?_getD]
    cases hi : (f :: g :: rest)[i]? with
    | none => rfl
    | some fmt => exact h fmt (List.mem_of_getElem? hi)

theorem texts_ok (hformats : ∀ fmt ∈ paramFormats, fmt = 0) {parameters : List (Option String)}
    (hfree : ∀ text, some text ∈ parameters → NulFree text)
    (hsize : ∀ text, some text ∈ parameters → (toUtf8 text).length < 2 ^ 31) (i : Nat) :
    OkFrom (WireParameter.Ok paramFormats) i (parameters.map WireParameter.ofText) ∧
      meanFrom (WireParameter.mean paramFormats) i (parameters.map WireParameter.ofText) = parameters := by
  induction parameters generalizing i with
  | nil => exact ⟨trivial, rfl⟩
  | cons parameter parameters ih =>
    obtain ⟨hok, hmean⟩ := ih (fun t ht => hfree t (List.mem_cons_of_mem _ ht))
      (fun t ht => hsize t (List.mem_cons_of_mem _ ht)) (i + 1)
    cases parameter with
    | none => exact ⟨⟨show (-1 : Int32).toInt < 0 by decide, hok⟩, congrArg (none :: ·) hmean⟩
    | some text =>
      have htext := parameterText_text (hfree text List.mem_cons_self)
      rw [← formatOf_text hformats i] at htext
      refine ⟨⟨⟨hsize text List.mem_cons_self, text, htext⟩, hok⟩, ?_⟩
      show (parameterText (formatOf paramFormats i) (toUtf8 text)).toOption :: _ = _
      rw [htext]
      exact congrArg (some text :: ·) hmean

theorem length_text_le {text : String} {parameters : List (Option String)} (h : some text ∈ parameters) :
    (toUtf8 text).length ≤ ((parameters.map WireParameter.ofText).flatMap WireParameter.write).length := by
  induction parameters with
  | nil => cases h
  | cons parameter parameters ih =>
    rw [List.map_cons, List.flatMap_cons, List.length_append]
    rcases List.mem_cons.mp h with rfl | h
    · show _ ≤ (be32 _ ++ toUtf8 text).length + _
      rw [List.length_append]
      omega
    · have := ih h
      omega

/-- **A message is decoded from its layout** iff its length can be declared and its formats are known. -/
theorem decode_wire (m : FrontendMessage) (paramFormats : List Int16) (hm : m.Writable)
    (hlen : paramFormats.length ≤ 32767) (hformats : ∀ fmt ∈ paramFormats, fmt = 0) :
    decodeFrontendMessage (m.wire paramFormats).layout = .ok m ↔ Fits (m.wire paramFormats).body ∧ m.FormatsKnown := by
  rw [decodeFrontendMessage_eq_ok]
  constructor
  · rintro ⟨w, hw, hfits, hlayout, hmean⟩
    obtain ⟨-, hbody⟩ := encodeMessage_inj hlayout
    rw [hbody]
    refine ⟨hfits, ?_⟩
    cases m with
    | bind portal statement parameters resultFormats =>
      cases w with
      | bind portal' statement' formats' parameters' resultFormats' =>
        obtain ⟨-, -, -, rfl⟩ := FrontendMessage.bind.inj hmean
        exact hw.2.2.resultsOk.2
      | _ => cases hmean
    | _ => trivial
  · rintro ⟨hfits, hknown⟩
    cases m with
    | query sql => exact ⟨.query sql, hm, hfits, rfl, rfl⟩
    | terminate => exact ⟨.terminate, trivial, hfits, rfl, rfl⟩
    | sync => exact ⟨.sync, trivial, hfits, rfl, rfl⟩
    | flush => exact ⟨.flush, trivial, hfits, rfl, rfl⟩
    | parse statement query paramTypes => exact ⟨.parse statement query paramTypes, hm, hfits, rfl, rfl⟩
    | describe target name => exact ⟨.describe target name, hm, hfits, rfl, rfl⟩
    | execute portal maxRows => exact ⟨.execute portal maxRows, hm, hfits, rfl, rfl⟩
    | close target name => exact ⟨.close target name, hm, hfits, rfl, rfl⟩
    | bind portal statement parameters resultFormats =>
      obtain ⟨hp, hs, hparams, hfree, hresults⟩ := hm
      have hsize : ∀ text, some text ∈ parameters → (toUtf8 text).length < 2 ^ 31 := by
        intro text htext
        have hle := length_text_le htext
        have hfits' : (cstring portal ++ (cstring statement ++ (writeList be16 paramFormats ++
          (writeList WireParameter.write (parameters.map WireParameter.ofText) ++
            writeList be16 resultFormats)))).length + 4 < 2 ^ 31 := hfits
        rw [List.length_append, List.length_append, List.length_append, List.length_append] at hfits'
        have hlist : (writeList WireParameter.write (parameters.map WireParameter.ofText)).length =
            2 + ((parameters.map WireParameter.ofText).flatMap WireParameter.write).length := by
          unfold writeList
          rw [List.length_append]
          rfl
        omega
      obtain ⟨hok, hmean⟩ := texts_ok hformats hfree hsize 0
      refine ⟨.bind portal statement paramFormats (parameters.map WireParameter.ofText) resultFormats,
        ⟨hp, hs, ⟨hlen, fun fmt hfmt => .inl (hformats fmt hfmt)⟩, ⟨?_, hok⟩, hresults, hknown⟩, hfits, rfl, ?_⟩
      · rw [List.length_map]
        exact hparams
      · exact congrArg (fun ps => FrontendMessage.bind portal statement ps resultFormats) hmean

theorem decode_encodeStartupMessage {parameters : List (String × String)} (hok : ∀ p ∈ parameters, PairOk p)
    (hnodup : (parameters.map Prod.fst).Nodup) (hsize : (encodeStartupMessage parameters).length ≤ maxStartupPacketLen) :
    ∃ out, decodeStartupPacket (encodeStartupMessage parameters) = .ok (.startup protocolVersion3 out) ∧
      ∀ name value, out name = some value ↔ (name, value) ∈ parameters := by
  refine ⟨_, decodeStartupPacket_eq_ok.mpr ⟨.startup parameters, hok, hsize, rfl, rfl⟩, fun name value => ?_⟩
  rw [insertAll_eq_some hnodup fun _ _ => rfl]
  exact ⟨fun h => h.elim nofun id, .inr⟩

/-! ## Main result -/

end DataNexus.PgMessages
