/-
  Column definitions of MySQL (`protocol/mysql/src/column.rs`, `util.rs`): writing and reading one, and cutting packets out
  of a run of them.

  The writer gives an empty text the marker of NULL, so it comes back as `None`, and an empty column name as `"\0"`
  (`decode_encode`).  Everything else comes back as it was.
-/
import DataNexus.Frontend.BinaryRows

namespace DataNexus.ColumnDefinitions

open DataNexus.LittleEndian DataNexus.Utf8
open DataNexus.BinaryRows (ColumnType)

/-- `column_type as u8`: the old types from 0, the new ones from `MYSQL_TYPE_NEWDECIMAL = 0xf6`. -/
def code (t : ColumnType) : Nat := if t.ctorIdx < 17 then t.ctorIdx else 0xf6 + (t.ctorIdx - 17)

/-- `ColumnType::from`; `none` is the transmute of a number that is no type. -/
def fromCode (n : Nat) : Option ColumnType :=
  if n < 17 then some (.ofNat n)
  else if 0xf6 ≤ n ∧ n ≤ 0xff then some (.ofNat (17 + (n - 0xf6)))
  else none

theorem fromCode_code (t : ColumnType) : fromCode (code t) = some t := by cases t <;> rfl

theorem code_lt (t : ColumnType) : code t < 256 ^ 1 := by cases t <;> decide

structure ColumnInfo where
  schema : Option String
  tableName : Option String
  columnName : String
  charset : UInt8
  columnLength : UInt32
  columnType : ColumnType
  columnFlag : UInt16
  decimals : UInt8

/-! ## Writing -/

def putLencInt (n : Nat) (isNum : Bool) : List UInt8 :=
  if n = 0 then le 1 (if isNum then 0 else 0xfb)
  else if n ≤ 250 then le 1 n
  else if n ≤ 0xffff then le 1 0xfc ++ le 2 n
  else if n ≤ 0xffffff then le 1 0xfd ++ le 3 n
  else le 1 0xfe ++ le 8 n

def putText : Option String → List UInt8
  | some s => putLencInt (toUtf8 s).length false ++ toUtf8 s
  | none => putLencInt 0 true

def ColumnInfo.encode (c : ColumnInfo) : List UInt8 :=
  putLencInt 3 false ++ (toUtf8 "def" ++ (putText c.schema ++ (putText c.tableName ++ (putLencInt 0 true ++
    (putText (some c.columnName) ++ (putLencInt 0 true ++ (le 1 0x0c ++ (le 1 c.charset.toNat ++ (le 1 0 ++
      (le 4 c.columnLength.toNat ++ (le 1 (code c.columnType) ++ (le 2 c.columnFlag.toNat ++
        (le 1 c.decimals.toNat ++ le 2 0)))))))))))))

/-! ## Reading: `none` is a panic -/

/-- `get_u8` and `get_uint_le`. -/
def getUintLe (w : Nat) (buf : List UInt8) : Option (Nat × List UInt8) :=
  if w ≤ buf.length then some (ofLe (buf.take w), buf.drop w) else none

def getLencInt (buf : List UInt8) : Option (Nat × Bool × List UInt8) := do
  let (first, buf) ← getUintLe 1 buf
  if first = 0xfb then some (0, true, buf)
  else if first = 0xfc then (getUintLe 2 buf).map fun (n, buf) => (n, false, buf)
  else if first = 0xfd then (getUintLe 3 buf).map fun (n, buf) => (n, false, buf)
  else if first = 0xfe then (getUintLe 8 buf).map fun (n, buf) => (n, false, buf)
  else some (first, false, buf)

def getLencStrBytes (buf : List UInt8) : Option (List UInt8 × Bool × List UInt8) := do
  let (length, isNull, buf) ← getLencInt buf
  if length < 1 ∨ isNull ∨ buf.isEmpty then some ([0], true, buf)
  else if 2 ^ 63 ≤ length then none -- no vector is so long
  else some (buf.take length ++ List.replicate (length - buf.length) 0, isNull, buf.drop length)

def skipLencLength (buf : List UInt8) : Option (List UInt8) := do
  let (length, _, buf) ← getLencInt buf
  if length ≤ buf.length then some (buf.drop length) else none

def getText (buf : List UInt8) : Option (Option String × List UInt8) := do
  let (bytes, isNull, buf) ← getLencStrBytes buf
  if isNull then some (none, buf) else (fromUtf8 bytes).map fun s => (some s, buf)

def decodeColumn (buf : List UInt8) : Option (ColumnInfo × List UInt8) := do
  let buf ← skipLencLength buf
  let (schema, buf) ← getText buf
  let (tableName, buf) ← getText buf
  let buf ← skipLencLength buf
  let (bytes, _, buf) ← getLencStrBytes buf
  let columnName ← fromUtf8 bytes
  let buf ← skipLencLength buf
  let (_, buf) ← getUintLe 1 buf
  let (charset, buf) ← getUintLe 1 buf
  let (_, buf) ← getUintLe 1 buf
  let (columnLength, buf) ← getUintLe 4 buf
  let (code, buf) ← getUintLe 1 buf
  let columnType ← fromCode code
  let (columnFlag, buf) ← getUintLe 2 buf
  let (decimals, buf) ← getUintLe 1 buf
  let (_, buf) ← getUintLe 2 buf
  some (⟨schema, tableName, columnName, .ofNat charset, .ofNat columnLength, columnType, .ofNat columnFlag,
    .ofNat decimals⟩, buf)

/-! ## What is written is read back -/

section

variable {w n : Nat} {rest : List UInt8}

theorem bind_of {α β : Type} {x : Option α} {a : α} {f : α → Option β} {r : Option β} (hx : x = some a) (hf : f a = r) :
    x >>= f = r := by
  rw [hx]
  exact hf

theorem getUintLe_le (h : n < 256 ^ w) : getUintLe w (le w n ++ rest) = some (n, rest) := by
  have hlen : (le w n).length = w := length_le w n
  rw [getUintLe, if_pos (by rw [List.length_append]; omega), List.take_left' hlen, List.drop_left' hlen,
    ofLe_le_of_lt h]

theorem getLencInt_put (h : n < 2 ^ 64) (isNum : Bool) :
    getLencInt (putLencInt n isNum ++ rest) = some (n, decide (n = 0) && !isNum, rest) := by
  have hlong : ∀ {w first : Nat}, first < 256 ^ 1 → n < 256 ^ w → n ≠ 0 →
      (getUintLe 1 (le 1 first ++ le w n ++ rest)) = some (first, le w n ++ rest) ∧
        (getUintLe w (le w n ++ rest)).map (fun (n, buf) => (n, false, buf)) =
          some (n, decide (n = 0) && !isNum, rest) := by
    intro w first hfirst hn h0
    rw [List.append_assoc, getUintLe_le hfirst, getUintLe_le hn, decide_eq_false h0]
    exact ⟨rfl, rfl⟩
  unfold putLencInt getLencInt
  by_cases h0 : n = 0
  · subst h0
    cases isNum <;> rfl
  rw [if_neg h0]
  by_cases h1 : n ≤ 250
  · rw [if_pos h1, getUintLe_le (by omega)]
    show (if n = 0xfb then _ else _) = _
    rw [if_neg (by omega), if_neg (by omega), if_neg (by omega), if_neg (by omega), decide_eq_false h0]
    rfl
  rw [if_neg h1]
  by_cases h2 : n ≤ 0xffff
  · obtain ⟨hfirst, hn⟩ := @hlong 2 0xfc (by decide) (by omega) h0
    rw [if_pos h2, hfirst]
    exact hn
  rw [if_neg h2]
  by_cases h3 : n ≤ 0xffffff
  · obtain ⟨hfirst, hn⟩ := @hlong 3 0xfd (by decide) (by omega) h0
    rw [if_pos h3, hfirst]
    exact hn
  · obtain ⟨hfirst, hn⟩ := @hlong 8 0xfe (by decide) (by omega) h0
    rw [if_neg h3, hfirst]
    exact hn

theorem toUtf8_ne_nil {s : String} (h : s ≠ "") : 0 < (toUtf8 s).length :=
  List.length_pos_iff.mpr fun hnil => h (toUtf8_inj.mp hnil)

theorem getLencStrBytes_put {s : String} (h : (toUtf8 s).length < 2 ^ 63) :
    getLencStrBytes (putText (some s) ++ rest) =
      some (if s = "" then ([0], true, rest) else (toUtf8 s, false, rest)) := by
  have hint : getLencInt (putText (some s) ++ rest) =
      some ((toUtf8 s).length, decide ((toUtf8 s).length = 0) && !false, toUtf8 s ++ rest) := by
    rw [putText, List.append_assoc]
    exact getLencInt_put (by omega) false
  refine bind_of hint ?_
  by_cases hs : s = ""
  · subst hs
    rfl
  · have hpos := toUtf8_ne_nil hs
    have hread : ¬ ((toUtf8 s).length < 1 ∨ (decide ((toUtf8 s).length = 0) && !false) = true ∨
        (toUtf8 s ++ rest).isEmpty = true) := by
      rintro (hlen | hnull | hend)
      · omega
      · rw [Bool.and_eq_true, decide_eq_true_iff] at hnull
        omega
      · exact List.ne_nil_of_length_pos hpos (List.append_eq_nil_iff.mp (List.isEmpty_iff.mp hend)).1
    show (if _ ∨ _ then _ else _) = _
    rw [if_neg hread, if_neg (by omega), if_neg hs, List.take_left, List.drop_left, List.length_append,
      Nat.sub_eq_zero_of_le (Nat.le_add_right _ _), decide_eq_false (by omega)]
    exact congrArg (fun bytes => some (bytes, false, rest)) (List.append_nil _)

def seenText (text : Option String) : Option String := if text = some "" then none else text

theorem getText_put {text : Option String} (h : ∀ s ∈ text, (toUtf8 s).length < 2 ^ 63) :
    getText (putText text ++ rest) = some (seenText text, rest) := by
  cases text with
  | none => rfl
  | some s =>
    refine bind_of (getLencStrBytes_put (h s rfl)) ?_
    by_cases hs : s = ""
    · subst hs
      rfl
    · rw [if_neg hs, seenText, if_neg fun heq => hs (Option.some.inj heq)]
      show (fromUtf8 (toUtf8 s)).map _ = _
      rw [fromUtf8_toUtf8]
      rfl

/-- Every text is shorter than a vector may be. -/
structure ColumnInfo.Fits (c : ColumnInfo) : Prop where
  schema : ∀ s ∈ c.schema, (toUtf8 s).length < 2 ^ 63
  tableName : ∀ s ∈ c.tableName, (toUtf8 s).length < 2 ^ 63
  columnName : (toUtf8 c.columnName).length < 2 ^ 63

def ColumnInfo.seen (c : ColumnInfo) : ColumnInfo :=
  { c with
    schema := seenText c.schema
    tableName := seenText c.tableName
    columnName := if c.columnName = "" then "\x00" else c.columnName }

theorem decode_encode {c : ColumnInfo} (h : c.Fits) : decodeColumn (c.encode ++ rest) = some (c.seen, rest) := by
  have hcatalog : ∀ {buf : List UInt8}, skipLencLength (putLencInt 3 false ++ (toUtf8 "def" ++ buf)) = some buf := rfl
  have hskip : ∀ {buf : List UInt8}, skipLencLength (putLencInt 0 true ++ buf) = some buf := rfl
  have hname : ∀ buf : List UInt8, ∃ bytes isNull,
      getLencStrBytes (putText (some c.columnName) ++ buf) = some (bytes, isNull, buf) ∧
        fromUtf8 bytes = some (if c.columnName = "" then "\x00" else c.columnName) := by
    intro buf
    rw [getLencStrBytes_put h.columnName]
    by_cases hempty : c.columnName = ""
    · rw [if_pos hempty, if_pos hempty]
      exact ⟨_, _, rfl, fromUtf8_eq_some.mpr rfl⟩
    · rw [if_neg hempty, if_neg hempty]
      exact ⟨_, _, rfl, fromUtf8_toUtf8 _⟩
  have hcharset : c.charset.toNat < 256 ^ 1 := c.charset.toNat_lt
  have hlength : c.columnLength.toNat < 256 ^ 4 := c.columnLength.toNat_lt
  have hflag : c.columnFlag.toNat < 256 ^ 2 := c.columnFlag.toNat_lt
  have hdecimals : c.decimals.toNat < 256 ^ 1 := c.decimals.toNat_lt
  unfold ColumnInfo.encode decodeColumn
  simp only [List.append_assoc]
  refine bind_of hcatalog ?_
  refine bind_of (getText_put h.schema) ?_
  refine bind_of (getText_put h.tableName) ?_
  refine bind_of hskip ?_
  obtain ⟨bytes, isNull, hbytes, hutf8⟩ := hname _
  refine bind_of hbytes ?_
  refine bind_of hutf8 ?_
  refine bind_of hskip ?_
  refine bind_of (getUintLe_le (by decide)) ?_
  refine bind_of (getUintLe_le hcharset) ?_
  refine bind_of (getUintLe_le (by decide)) ?_
  refine bind_of (getUintLe_le hlength) ?_
  refine bind_of (getUintLe_le (code_lt _)) ?_
  refine bind_of (fromCode_code _) ?_
  refine bind_of (getUintLe_le hflag) ?_
  refine bind_of (getUintLe_le hdecimals) ?_
  refine bind_of (getUintLe_le (by decide)) ?_
  rw [UInt8.ofNat_toNat, UInt32.ofNat_toNat, UInt8.ofNat_toNat, UInt16.ofNat_toNat]
  rfl

/-- What is written is read back, and no byte more is read. -/
def RoundTrips (c : ColumnInfo) : Prop := ∀ rest, decodeColumn (c.encode ++ rest) = some (c, rest)

theorem roundTrips_iff {c : ColumnInfo} (h : c.Fits) :
    RoundTrips c ↔ c.schema ≠ some "" ∧ c.tableName ≠ some "" ∧ c.columnName ≠ "" := by
  constructor
  · intro hread
    have hseen : c.seen = c := congrArg Prod.fst (Option.some.inj ((decode_encode h).symm.trans (hread [])))
    refine ⟨fun hempty => ?_, fun hempty => ?_, fun hempty => ?_⟩
    · have hnone : seenText c.schema = c.schema := congrArg ColumnInfo.schema hseen
      rw [hempty] at hnone
      exact absurd hnone (by decide)
    · have hnone : seenText c.tableName = c.tableName := congrArg ColumnInfo.tableName hseen
      rw [hempty] at hnone
      exact absurd hnone (by decide)
    · have hzero : (if c.columnName = "" then "\x00" else c.columnName) = c.columnName :=
        congrArg ColumnInfo.columnName hseen
      rw [hempty] at hzero
      exact absurd hzero (by decide)
  · rintro ⟨hschema, htable, hname⟩ rest
    rw [decode_encode h, ColumnInfo.seen, seenText, seenText, if_neg hschema, if_neg htable, if_neg hname]

end

/-! ## Runs of packets -/

/-- A packet: the length of the payload in three bytes, a sequence number, the payload. -/
structure Packet where
  seq : UInt8
  payload : List UInt8
  short : payload.length < 256 ^ 3

def Packet.bytes (p : Packet) : List UInt8 := le 3 p.payload.length ++ p.seq :: p.payload

def getLength (buf : List UInt8) : Nat := ofLe (buf.take 3)

/-- One turn of the loops: past the packet at a position.  `none` is a read behind the end. -/
def packetEnd (buf : List UInt8) (pos : Nat) : Option Nat :=
  if pos + 3 ≤ buf.length then some (pos + (getLength (buf.drop pos) + 4)) else none

def times (f : Nat → Option Nat) : Nat → Nat → Option Nat
  | 0, pos => some pos
  | k + 1, pos => f pos >>= times f k

def removeColumnByIdx (columns : List UInt8) (chunk : List Nat) : Option (List UInt8) := do
  let pos ← times (packetEnd columns) (chunk.headD 0) 0
  if columns.length < pos then none
  else
    let remainPart := columns.drop pos
    let pos' ← times (fun pos => if remainPart.length ≤ pos then some pos else packetEnd remainPart pos) chunk.length 0
    if remainPart.length < pos' then none else some (columns.take pos ++ remainPart.drop pos')

def addColumnByIdx (columns : List UInt8) (idx : Nat) (add : List UInt8) : Option (List UInt8) := do
  let pos ← times (packetEnd columns) idx 0
  if columns.length < pos then none else some (columns.take pos ++ (add ++ columns.drop pos))

def run (ps : List Packet) : List UInt8 := ps.flatMap Packet.bytes

theorem packetEnd_append (front : List UInt8) (p : Packet) (back : List UInt8) :
    packetEnd (front ++ (p.bytes ++ back)) front.length = some (front ++ p.bytes).length := by
  have hlen : (le 3 p.payload.length).length = 3 := length_le 3 _
  have hbytes : p.bytes.length = p.payload.length + 4 := by
    rw [Packet.bytes, List.length_append, hlen, List.length_cons]
    omega
  have hread : getLength (p.bytes ++ back) = p.payload.length := by
    rw [getLength, Packet.bytes, List.append_assoc, List.take_left' hlen, ofLe_le_of_lt p.short]
  rw [packetEnd, if_pos (by rw [List.length_append, List.length_append]; omega), List.drop_left, hread,
    List.length_append, hbytes]

theorem times_run {f : Nat → Option Nat} {buf : List UInt8}
    (hf : ∀ (front : List UInt8) (p : Packet) back, buf = front ++ (p.bytes ++ back) → f front.length = some (front ++ p.bytes).length)
    (ps : List Packet) {front back : List UInt8} (h : buf = front ++ (run ps ++ back)) :
    times f ps.length front.length = some (front ++ run ps).length := by
  induction ps generalizing front with
  | nil => rw [run, List.flatMap_nil, List.append_nil]; rfl
  | cons p ps ih =>
    have hrun : run (p :: ps) = p.bytes ++ run ps := List.flatMap_cons
    rw [hrun, List.append_assoc] at h
    refine bind_of (hf front p _ h) ?_
    rw [hrun, ← List.append_assoc]
    rw [← List.append_assoc] at h
    exact ih h

theorem times_packetEnd (ps : List Packet) (back : List UInt8) :
    times (packetEnd (run ps ++ back)) ps.length 0 = some (run ps).length :=
  @times_run _ _ (fun front p back h => h ▸ packetEnd_append front p back) ps [] back rfl

theorem addColumnByIdx_run (front back : List Packet) (p : Packet) :
    addColumnByIdx (run (front ++ back)) front.length p.bytes = some (run (front ++ p :: back)) := by
  have hsplit : run (front ++ back) = run front ++ run back := List.flatMap_append
  rw [hsplit]
  refine bind_of (times_packetEnd front _) ?_
  show (if _ then _ else _) = _
  rw [if_neg (by rw [List.length_append]; omega), List.take_left, List.drop_left, run, run, run, List.flatMap_append,
    List.flatMap_cons]

theorem removeColumnByIdx_run (front cut back : List Packet) {chunk : List Nat} (hlen : chunk.length = cut.length)
    (hstart : chunk.headD 0 = front.length) :
    removeColumnByIdx (run (front ++ (cut ++ back))) chunk = some (run (front ++ back)) := by
  have hsplit : run (front ++ (cut ++ back)) = run front ++ (run cut ++ run back) := by
    rw [run, List.flatMap_append, List.flatMap_append]
    rfl
  have hcut : times (fun pos => if (run cut ++ run back).length ≤ pos then some pos
      else packetEnd (run cut ++ run back) pos) cut.length 0 = some (run cut).length := by
    refine @times_run _ (run cut ++ run back) (fun front p back h => ?_) cut [] (run back) rfl
    rw [h]
    refine (if_neg ?_).trans (packetEnd_append front p back)
    rw [List.length_append, List.length_append, Packet.bytes, List.length_append, List.length_cons]
    omega
  rw [hsplit]
  refine bind_of (hstart ▸ times_packetEnd front _) ?_
  rw [if_neg (by rw [List.length_append]; omega), List.drop_left, List.take_left]
  refine bind_of (hlen ▸ hcut) ?_
  rw [if_neg (by rw [List.length_append]; omega), List.drop_left, run, run, run, List.flatMap_append]

/-- **Column definitions.**  One is read back unless a text of it is empty; packets are put in and taken out whole. -/
theorem columns_exact (c : ColumnInfo) (h : c.Fits) :
    (RoundTrips c ↔ c.schema ≠ some "" ∧ c.tableName ≠ some "" ∧ c.columnName ≠ "") ∧
      (∀ (packets : List Packet) (i : Nat) (p : Packet), i ≤ packets.length →
        (addColumnByIdx (run packets) i p.bytes >>= (removeColumnByIdx · [i])) = some (run packets)) ∧
      ∀ (packets : List Packet) (start count : Nat), start + count ≤ packets.length →
        removeColumnByIdx (run packets) (List.range' start count) =
          some (run (packets.take start ++ packets.drop (start + count))) := by
  refine ⟨roundTrips_iff h, fun packets i p hi => ?_, fun packets start count hrange => ?_⟩
  · have hsplit : packets.take i ++ packets.drop i = packets := List.take_append_drop i packets
    have hlen : (packets.take i).length = i := List.length_take_of_le hi
    have hadd := addColumnByIdx_run (packets.take i) (packets.drop i) p
    have hremove := @removeColumnByIdx_run (packets.take i) [p] (packets.drop i) [i] rfl hlen.symm
    rw [hsplit] at hadd hremove
    rw [hlen] at hadd
    exact bind_of hadd hremove
  · cases count with
    | zero =>
      show removeColumnByIdx _ [] = _
      rw [Nat.add_zero, List.take_append_drop]
      exact removeColumnByIdx_run [] [] packets rfl rfl
    | succ count =>
      have hlen : (packets.take start).length = start := List.length_take_of_le (by omega)
      have hcut : (List.range' start (count + 1)).length = ((packets.drop start).take (count + 1)).length := by
        rw [List.length_range', List.length_take, List.length_drop]
        omega
      have hremove := removeColumnByIdx_run (packets.take start) ((packets.drop start).take (count + 1))
        (packets.drop (start + (count + 1))) hcut hlen.symm
      rwa [← List.drop_drop, List.take_append_drop, List.take_append_drop, List.drop_drop] at hremove

/-- The column definition of the test, of an empty name. -/
def unnamed : ColumnInfo := ⟨none, none, "", 0x3f, 0, .varString, 0x80, 0⟩

theorem unnamed_exact : unnamed.Fits ∧ ¬ RoundTrips unnamed :=
  have hfits : unnamed.Fits := ⟨nofun, nofun, by decide⟩
  ⟨hfits, fun h => ((columns_exact unnamed hfits).1.mp h).2.2 rfl⟩

theorem name_of_zero : ¬ ∀ c : ColumnInfo, c.Fits → RoundTrips c := by
  intro h
  have hfits : unnamed.Fits := ⟨nofun, nofun, by decide⟩
  exact ((roundTrips_iff hfits).mp (h unnamed hfits)).2.2 rfl

end DataNexus.ColumnDefinitions
