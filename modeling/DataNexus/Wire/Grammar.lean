/-
  The grammar of the messages of a PostgreSQL client, and the frames that `decode_frontend_message` accepts.

  `Accepted` is what the code checks, and `Strict` what the protocol demands beyond it: one format for all parameters or
  one for each, -1 as the length of NULL, a statement or a portal as the target of a Describe or a Close.

  * `decodeFrontendMessage_eq_ok` — the accepted frames are the layouts of the accepted messages;
  * `decodeFrontendMessage_panics` — the decoder panics on a Parse or a Bind that counts below zero;
  * `exactAt_iff` — a frame is decoded as the protocol has it iff it is not one of those that `Deviates` lists.
-/
import DataNexus.Wire.Messages

namespace DataNexus.PgMessages

open Fallible Layout Utf8

/-! ## Messages as they are laid out -/

/-- A message of a client, with all that its frame says. -/
inductive WireMessage where
  | query (sql : String)
  | terminate
  | sync
  | flush
  | parse (statement query : String) (paramTypes : List Int32)
  | bind (portal statement : String) (paramFormats : List Int16) (parameters : List WireParameter)
      (resultFormats : List Int16)
  | describe (target : UInt8) (name : String)
  | execute (portal : String) (maxRows : Int32)
  | close (target : UInt8) (name : String)
  deriving DecidableEq

namespace WireMessage

def tag : WireMessage → UInt8
  | .query _ => 81
  | .terminate => 88
  | .sync => 83
  | .flush => 72
  | .parse _ _ _ => 80
  | .bind _ _ _ _ _ => 66
  | .describe _ _ => 68
  | .execute _ _ => 69
  | .close _ _ => 67

def body : WireMessage → List UInt8
  | .query sql => cstring sql
  | .terminate => []
  | .sync => []
  | .flush => []
  | .parse statement sql paramTypes => cstring statement ++ (cstring sql ++ writeList be32 paramTypes)
  | .bind portal statement paramFormats parameters resultFormats =>
    cstring portal ++ (cstring statement ++ bindLists paramFormats parameters resultFormats)
  | .describe target name => target :: cstring name
  | .execute portal maxRows => cstring portal ++ be32 maxRows
  | .close target name => target :: cstring name

def layout (w : WireMessage) : List UInt8 := encodeMessage w.tag w.body

def Accepted : WireMessage → Prop
  | .query sql => NulFree sql
  | .terminate => True
  | .sync => True
  | .flush => True
  | .parse statement sql paramTypes => NulFree statement ∧ NulFree sql ∧ paramTypes.length ≤ 32767
  | .bind portal statement paramFormats parameters resultFormats =>
    NulFree portal ∧ NulFree statement ∧ BindOk paramFormats parameters resultFormats
  | .describe _ name => NulFree name
  | .execute portal _ => NulFree portal
  | .close _ name => NulFree name

def Strict : WireMessage → Prop
  | .bind _ _ paramFormats parameters _ =>
    (paramFormats.length = 0 ∨ paramFormats.length = 1 ∨ paramFormats.length = parameters.length) ∧
      ∀ len, .null len ∈ parameters → len = -1
  | .describe target _ => target = 83 ∨ target = 80
  | .close target _ => target = 83 ∨ target = 80
  | _ => True

def mean : WireMessage → FrontendMessage
  | .query sql => .query sql
  | .terminate => .terminate
  | .sync => .sync
  | .flush => .flush
  | .parse statement sql paramTypes => .parse statement sql paramTypes
  | .bind portal statement paramFormats parameters resultFormats =>
    .bind portal statement (meanFrom (WireParameter.mean paramFormats) 0 parameters) resultFormats
  | .describe target name => .describe target name
  | .execute portal maxRows => .execute portal maxRows
  | .close target name => .close target name

end WireMessage

def Fits (body : List UInt8) : Prop := body.length + 4 < 2 ^ 31

/-! ## The accepted frames -/

variable {m : FrontendMessage}

/-- **The bodies that a tag allows.** -/
theorem decodeBody_eq_ok {tag : UInt8} {body : List UInt8} :
    decodeBody tag body = .ok m ↔ ∃ w : WireMessage, w.Accepted ∧ w.tag = tag ∧ w.body = body ∧ w.mean = m := by
  constructor
  · intro h
    unfold decodeBody at h
    split at h
    · obtain ⟨sql, hsql, hm⟩ := bind_eq_ok.mp h
      obtain ⟨hfree, rfl⟩ := decodeSingleCstring_eq_ok.mp hsql
      exact ⟨.query sql, hfree, rfl, rfl, pure_eq_ok.mp hm⟩
    · obtain ⟨⟨⟩, hempty, hm⟩ := bind_eq_ok.mp h
      exact ⟨.terminate, trivial, rfl, (requireEmptyBody_eq_ok.mp hempty).symm, pure_eq_ok.mp hm⟩
    · obtain ⟨⟨⟩, hempty, hm⟩ := bind_eq_ok.mp h
      exact ⟨.sync, trivial, rfl, (requireEmptyBody_eq_ok.mp hempty).symm, pure_eq_ok.mp hm⟩
    · obtain ⟨⟨⟩, hempty, hm⟩ := bind_eq_ok.mp h
      exact ⟨.flush, trivial, rfl, (requireEmptyBody_eq_ok.mp hempty).symm, pure_eq_ok.mp hm⟩
    · obtain ⟨statement, query, types, hs, hq, hlen, rfl, rfl⟩ := decodeParseBody_eq_ok.mp h
      exact ⟨.parse statement query types, ⟨hs, hq, hlen⟩, rfl, rfl, rfl⟩
    · obtain ⟨portal, statement, formats, parameters, results, hp, hs, hok, rfl, rfl⟩ := decodeBindBody_eq_ok.mp h
      exact ⟨.bind portal statement formats parameters results, ⟨hp, hs, hok⟩, rfl, rfl, rfl⟩
    · obtain ⟨target, name, hfree, rfl, rfl⟩ := decodeDescribeOrCloseBody_eq_ok.mp h
      exact ⟨.describe target name, hfree, rfl, rfl, rfl⟩
    · obtain ⟨portal, maxRows, hfree, rfl, rfl⟩ := decodeExecuteBody_eq_ok.mp h
      exact ⟨.execute portal maxRows, hfree, rfl, rfl, rfl⟩
    · obtain ⟨target, name, hfree, rfl, rfl⟩ := decodeDescribeOrCloseBody_eq_ok.mp h
      exact ⟨.close target name, hfree, rfl, rfl, rfl⟩
    · cases h
  · rintro ⟨w, hw, rfl, rfl, rfl⟩
    cases w with
    | query sql => exact bind_eq_ok.mpr ⟨sql, decodeSingleCstring_eq_ok.mpr ⟨hw, rfl⟩, rfl⟩
    | terminate => rfl
    | sync => rfl
    | flush => rfl
    | parse statement query types =>
      exact decodeParseBody_eq_ok.mpr ⟨statement, query, types, hw.1, hw.2.1, hw.2.2, rfl, rfl⟩
    | bind portal statement formats parameters results =>
      exact decodeBindBody_eq_ok.mpr
        ⟨portal, statement, formats, parameters, results, hw.1, hw.2.1, hw.2.2, rfl, rfl⟩
    | describe target name => exact decodeDescribeOrCloseBody_eq_ok.mpr ⟨target, name, hw, rfl, rfl⟩
    | execute portal maxRows => exact decodeExecuteBody_eq_ok.mpr ⟨portal, maxRows, hw, rfl, rfl⟩
    | close target name => exact decodeDescribeOrCloseBody_eq_ok.mpr ⟨target, name, hw, rfl, rfl⟩

def NegativeBody (tag : UInt8) (body : List UInt8) : Prop :=
  (tag = 80 ∧ ParseNegative body) ∨ (tag = 66 ∧ BindNegative body)

theorem decodeBody_panics {tag : UInt8} {body : List UInt8} :
    decodeBody tag body = .error .panicked ↔ NegativeBody tag body := by
  have hnot : ∀ {t : UInt8}, t ≠ 80 → t ≠ 66 → ¬ NegativeBody t body := by
    rintro t h80 h66 (⟨h, -⟩ | ⟨h, -⟩)
    · exact h80 h
    · exact h66 h
  have hempty : ∀ m : FrontendMessage, (requireEmptyBody body >>= fun _ => pure m) ≠ .error .panicked := by
    intro m h
    rcases bind_eq_error.mp h with h | ⟨_, -, h⟩
    · exact requireEmptyBody_never _ h
    · cases h
  unfold decodeBody
  split
  · refine iff_of_false (fun h => ?_) (hnot (by decide) (by decide))
    rcases bind_eq_error.mp h with h | ⟨_, -, h⟩
    · exact decodeSingleCstring_never _ h
    · cases h
  · exact iff_of_false (hempty _) (hnot (by decide) (by decide))
  · exact iff_of_false (hempty _) (hnot (by decide) (by decide))
  · exact iff_of_false (hempty _) (hnot (by decide) (by decide))
  · rw [decodeParseBody_panics]
    exact ⟨fun h => .inl ⟨rfl, h⟩, fun h => h.elim And.right fun h => absurd h.1 (by decide)⟩
  · rw [decodeBindBody_panics]
    exact ⟨fun h => .inr ⟨rfl, h⟩, fun h => h.elim (fun h => absurd h.1 (by decide)) And.right⟩
  · exact iff_of_false (decodeDescribeOrCloseBody_never _ _) (hnot (by decide) (by decide))
  · exact iff_of_false (decodeExecuteBody_never _) (hnot (by decide) (by decide))
  · exact iff_of_false (decodeDescribeOrCloseBody_never _ _) (hnot (by decide) (by decide))
  · rename_i h80 h66 _ _ _
    exact iff_of_false nofun (hnot h80 h66)

theorem decode_encodeMessage {tag : UInt8} {body : List UInt8} (h : Fits body) :
    decodeFrontendMessage (encodeMessage tag body) = decodeBody tag body := by
  unfold Fits at h
  have hlen : (encodeMessage tag body).length = body.length + 5 := by
    unfold encodeMessage
    rw [List.length_cons, List.length_append, length_be32]
    omega
  have hint : (Int32.ofNat (body.length + 4)).toInt = (body.length + 4 : Nat) := Int32.toInt_ofNat_of_lt h
  have hnat : (Int32.ofNat (body.length + 4)).toNatClampNeg = body.length + 4 := Int32.toNatClampNeg_ofNat_of_lt h
  have hword : slice (encodeMessage tag body) 1 5 = .ok (be32 (Int32.ofNat (body.length + 4))) :=
    slice_eq_ok (by omega) (by omega)
  have hrest : slice (encodeMessage tag body) 5 (encodeMessage tag body).length = .ok body := slice_from (by omega)
  have hread := readI32_be32 (Int32.ofNat (body.length + 4)) []
  rw [List.append_nil] at hread
  unfold decodeFrontendMessage
  rw [if_neg (by omega), hword, ok_bind]
  dsimp only
  rw [hread, if_neg (by omega), hnat, if_neg (by omega), hrest]
  rfl

theorem refused_or_framed (frame : List UInt8) : (∃ e, decodeFrontendMessage frame = .error (.error e)) ∨
    ∃ tag body, Fits body ∧ frame = encodeMessage tag body := by
  unfold decodeFrontendMessage Fits
  split_ifs with hshort
  · exact .inl ⟨_, rfl⟩
  · match frame, hshort with
    | tag :: tail, hshort =>
      rw [List.length_cons] at hshort
      obtain ⟨body, hbody⟩ := be32_readI32 (show 4 ≤ tail.length by omega)
      have hword : slice (tag :: tail) 1 5 = .ok (tail.take 4) :=
        slice_eq_ok (by omega) (by rw [List.length_cons]; omega)
      rw [hword, ok_bind]
      dsimp only
      rw [readI32_take]
      generalize readI32 tail = len at hbody
      have hlen := congrArg List.length hbody
      rw [List.length_append, length_be32] at hlen
      split_ifs with hsmall hother
      · exact .inl ⟨_, rfl⟩
      · exact .inl ⟨_, rfl⟩
      · have hother := not_not.mp hother
        rw [List.length_cons] at hother
        have hlt := Int32.toNatClampNeg_lt len
        have hdeclared : Int32.ofNat (body.length + 4) = len := by
          rw [show body.length + 4 = len.toNatClampNeg by omega]
          exact Int32.ofNat_toNatClampNeg len (Int32.le_iff_toInt_le.mpr (by show 0 ≤ len.toInt; omega))
        refine .inr ⟨tag, body, by omega, ?_⟩
        unfold encodeMessage
        rw [hdeclared, hbody]

theorem encodeMessage_inj {tag tag' : UInt8} {body body' : List UInt8} (h : encodeMessage tag body = encodeMessage tag' body') :
    tag = tag' ∧ body = body' := by
  obtain ⟨rfl, htail⟩ := List.cons.inj h
  exact ⟨rfl, (List.append_inj htail rfl).2⟩

/-- **The accepted frames** are the layouts of the accepted messages. -/
theorem decodeFrontendMessage_eq_ok {frame : List UInt8} : decodeFrontendMessage frame = .ok m ↔
      ∃ w : WireMessage, w.Accepted ∧ Fits w.body ∧ frame = w.layout ∧ w.mean = m := by
  constructor
  · intro h
    rcases refused_or_framed frame with ⟨e, he⟩ | ⟨tag, body, hfits, rfl⟩
    · rw [he] at h
      cases h
    · rw [decode_encodeMessage hfits] at h
      obtain ⟨w, hw, rfl, rfl, hm⟩ := decodeBody_eq_ok.mp h
      exact ⟨w, hw, hfits, rfl, hm⟩
  · rintro ⟨w, hw, hfits, rfl, rfl⟩
    unfold WireMessage.layout
    rw [decode_encodeMessage hfits]
    exact decodeBody_eq_ok.mpr ⟨w, hw, rfl, rfl, rfl⟩

/-- A Parse or a Bind frame that counts below zero. -/
def NegativeCount (frame : List UInt8) : Prop :=
  ∃ tag body, Fits body ∧ frame = encodeMessage tag body ∧ NegativeBody tag body

/-- **Where the decoder panics.** -/
theorem decodeFrontendMessage_panics {frame : List UInt8} :
    decodeFrontendMessage frame = .error .panicked ↔ NegativeCount frame := by
  constructor
  · intro h
    rcases refused_or_framed frame with ⟨e, he⟩ | ⟨tag, body, hfits, rfl⟩
    · rw [he] at h
      cases h
    · rw [decode_encodeMessage hfits] at h
      exact ⟨tag, body, hfits, rfl, decodeBody_panics.mp h⟩
  · rintro ⟨tag, body, hfits, rfl, hneg⟩
    rw [decode_encodeMessage hfits]
    exact decodeBody_panics.mpr hneg

/-! ## A frame is the layout of one message -/

theorem unique_cstring : Unique cstring NulFree := by
  intro s t xs ys hs ht h
  have hread : splitCstring (cstring s ++ xs) = .ok (s, xs) := splitCstring_eq_ok.mpr ⟨hs, rfl⟩
  rw [h, splitCstring_eq_ok.mpr ⟨ht, rfl⟩] at hread
  exact ⟨(Prod.mk.inj (Except.ok.inj hread)).1.symm, (Prod.mk.inj (Except.ok.inj hread)).2.symm⟩

theorem unique_writeList {α : Type} {write : α → List UInt8} {Ok : α → Prop} (h : Unique write Ok) :
    Unique (writeList write) (fun as => as.length ≤ 32767 ∧ ∀ a ∈ as, Ok a) := by
  rintro as bs xs ys ⟨hlen, has⟩ ⟨hlen', hbs⟩ heq
  unfold writeList at heq
  rw [List.append_assoc, List.append_assoc] at heq
  obtain ⟨hcount, hitems⟩ := exact_countAt.unique _ _ _ _ hlen hlen' heq
  exact h.flatMap hcount has hbs hitems

def WireParameter.Sized : WireParameter → Prop
  | .null len => len.toInt < 0
  | .value raw => raw.length < 2 ^ 31

theorem WireParameter.Ok.sized {paramFormats : List Int16} {i : Nat} {p : WireParameter} (h : p.Ok paramFormats i) :
    p.Sized := by
  cases p with
  | null len => exact h
  | value raw => exact h.1

theorem unique_parameter : Unique WireParameter.write WireParameter.Sized := by
  have hword := exact_i32At.unique
  intro p q xs ys hp hq h
  cases p with
  | null len =>
    cases q with
    | null len' =>
      obtain ⟨rfl, hrest⟩ := hword len len' _ _ trivial trivial h
      exact ⟨rfl, hrest⟩
    | value raw' =>
      rw [WireParameter.write_value, List.append_assoc] at h
      obtain ⟨rfl, -⟩ := hword len _ _ _ trivial trivial h
      have hint : (Int32.ofNat raw'.length).toInt = raw'.length := Int32.toInt_ofNat_of_lt hq
      have hneg : (Int32.ofNat raw'.length).toInt < 0 := hp
      omega
  | value raw =>
    have hint : (Int32.ofNat raw.length).toInt = raw.length := Int32.toInt_ofNat_of_lt hp
    rw [WireParameter.write_value, List.append_assoc] at h
    cases q with
    | null len' =>
      obtain ⟨rfl, -⟩ := hword _ len' _ _ trivial trivial h
      have hneg : (Int32.ofNat raw.length).toInt < 0 := hq
      omega
    | value raw' =>
      rw [WireParameter.write_value, List.append_assoc] at h
      obtain ⟨hlen, hrest⟩ := hword _ _ _ _ trivial trivial h
      have hint' : (Int32.ofNat raw'.length).toInt = raw'.length := Int32.toInt_ofNat_of_lt hq
      rw [hlen] at hint
      obtain ⟨rfl, htail⟩ := List.append_inj hrest (by omega)
      exact ⟨rfl, htail⟩

theorem bindLists_inj {f f' : List Int16} {ps ps' : List WireParameter} {r r' : List Int16} (h : BindOk f ps r)
    (h' : BindOk f' ps' r') (heq : bindLists f ps r = bindLists f' ps' r') : f = f' ∧ ps = ps' ∧ r = r' := by
  have hsized : ∀ {f ps r}, BindOk f ps r → ps.length ≤ 32767 ∧ ∀ p ∈ ps, p.Sized :=
    fun h => ⟨h.parametersOk.1, forall_of_okFrom (fun _ _ hp => hp.sized) h.parametersOk.2⟩
  unfold bindLists at heq
  obtain ⟨rfl, hrest⟩ := unique_writeList exact_formatAt.unique _ _ _ _ h.formatsOk h'.formatsOk heq
  obtain ⟨rfl, hresults⟩ := unique_writeList unique_parameter _ _ _ _ (hsized h) (hsized h') hrest
  rw [← List.append_nil (writeList be16 r), ← List.append_nil (writeList be16 r')] at hresults
  obtain ⟨rfl, -⟩ := unique_writeList exact_formatAt.unique _ _ _ _ h.resultsOk h'.resultsOk hresults
  exact ⟨rfl, rfl, rfl⟩

theorem cstring_inj {s t : String} (hs : NulFree s) (ht : NulFree t) (h : cstring s = cstring t) : s = t := by
  rw [← List.append_nil (cstring s), ← List.append_nil (cstring t)] at h
  exact (unique_cstring s t _ _ hs ht h).1

/-- **A frame is the layout of one message.** -/
theorem layout_inj {w w' : WireMessage} (h : w.Accepted) (h' : w'.Accepted) (heq : w.layout = w'.layout) : w = w' := by
  obtain ⟨htag, hbody⟩ := encodeMessage_inj heq
  cases w <;> cases w' <;> first | exact absurd htag (of_decide_eq_false rfl) | skip
  case query.query => rw [cstring_inj h h' hbody]
  case terminate.terminate => rfl
  case sync.sync => rfl
  case flush.flush => rfl
  case parse.parse s q types s' q' types' =>
    obtain ⟨rfl, hrest⟩ := unique_cstring _ _ _ _ h.1 h'.1 hbody
    obtain ⟨rfl, htypes⟩ := unique_cstring _ _ _ _ h.2.1 h'.2.1 hrest
    rw [← List.append_nil (writeList be32 types), ← List.append_nil (writeList be32 types')] at htypes
    obtain ⟨rfl, -⟩ := unique_writeList exact_i32At.unique _ _ _ _ ⟨h.2.2, fun _ _ => trivial⟩
      ⟨h'.2.2, fun _ _ => trivial⟩ htypes
    rfl
  case bind.bind =>
    obtain ⟨rfl, hrest⟩ := unique_cstring _ _ _ _ h.1 h'.1 hbody
    obtain ⟨rfl, hlists⟩ := unique_cstring _ _ _ _ h.2.1 h'.2.1 hrest
    obtain ⟨rfl, rfl, rfl⟩ := bindLists_inj h.2.2 h'.2.2 hlists
    rfl
  case describe.describe =>
    obtain ⟨rfl, hname⟩ := List.cons.inj hbody
    rw [cstring_inj h h' hname]
  case execute.execute portal maxRows portal' maxRows' =>
    obtain ⟨rfl, hrows⟩ := unique_cstring _ _ _ _ h h' hbody
    obtain ⟨rfl, -⟩ := exact_i32At.unique _ _ [] [] trivial trivial (congrArg (· ++ []) hrows)
    rfl
  case close.close =>
    obtain ⟨rfl, hname⟩ := List.cons.inj hbody
    rw [cstring_inj h h' hname]

/-! ## What the protocol has -/

/-- Decoded as the protocol has it: no panic, and a message iff the frame is the layout of one. -/
def ExactAt (frame : List UInt8) : Prop :=
  decodeFrontendMessage frame ≠ .error .panicked ∧
    ((∃ m, decodeFrontendMessage frame = .ok m) ↔
      ∃ w : WireMessage, (w.Accepted ∧ w.Strict) ∧ Fits w.body ∧ frame = w.layout)

/-- The frames that are not: a negative count, or a message that the protocol does not have. -/
def Deviates (frame : List UInt8) : Prop :=
  NegativeCount frame ∨ ∃ w : WireMessage, (w.Accepted ∧ ¬ w.Strict) ∧ Fits w.body ∧ frame = w.layout

/-- **A frame is decoded as the protocol has it iff it does not deviate.** -/
theorem exactAt_iff (frame : List UInt8) : ExactAt frame ↔ ¬ Deviates frame := by
  unfold ExactAt Deviates
  rw [ne_eq, decodeFrontendMessage_panics, not_or]
  refine and_congr_right fun _ => ?_
  constructor
  · rintro hiff ⟨w, ⟨hw, hloose⟩, hfits, rfl⟩
    obtain ⟨w', ⟨hw', hstrict⟩, -, heq⟩ := hiff.mp ⟨_, decodeFrontendMessage_eq_ok.mpr ⟨w, hw, hfits, rfl, rfl⟩⟩
    exact hloose (layout_inj hw hw' heq ▸ hstrict)
  · intro hnone
    constructor
    · rintro ⟨m, hm⟩
      obtain ⟨w, hw, hfits, rfl, -⟩ := decodeFrontendMessage_eq_ok.mp hm
      exact ⟨w, ⟨hw, not_not.mp fun hloose => hnone ⟨w, ⟨hw, hloose⟩, hfits, rfl⟩⟩, hfits, rfl⟩
    · rintro ⟨w, ⟨hw, -⟩, hfits, rfl⟩
      exact ⟨_, decodeFrontendMessage_eq_ok.mpr ⟨w, hw, hfits, rfl, rfl⟩⟩

end DataNexus.PgMessages
