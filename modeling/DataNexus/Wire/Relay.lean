/-
  `PgTcpIdlePool`, `PgTcpWireStream` and the requests that are relayed over a session.

  The idle pools and the slots are the places a session can be given back to.  `finish_session` is run when
  a response is complete, when the connection ends and when a stream is dropped; only `IdleOrTxn` looks at
  how far the response was read.
-/
import Mathlib.Logic.Function.Basic
import DataNexus.Wire.Session

namespace DataNexus.Wire

open DataNexus.Frames

/-! ## The idle pool -/

structure IdleEntry where
  session : PgTcpSession
  idleSince : Nat

/-- `PgTcpIdlePool`; a key without a queue has the empty one. -/
structure PgTcpIdlePool where
  maxPerKey : Nat
  idleTtl : Nat
  healthProbe : Bool
  idle : String → List IdleEntry

namespace PgTcpIdlePool

/-- `with_ttl` and `without_health_probe`. -/
def new (maxPerKey idleTtl : Nat) (healthProbe : Bool) : PgTcpIdlePool :=
  ⟨max maxPerKey 1, idleTtl, healthProbe, fun _ => []⟩

/-- The entry is older than the idle time to live. -/
def expired (pool : PgTcpIdlePool) (now : Nat) (entry : IdleEntry) : Bool :=
  decide (pool.idleTtl < now - entry.idleSince)

def setQueue (pool : PgTcpIdlePool) (key : String) (queue : List IdleEntry) : PgTcpIdlePool :=
  { pool with idle := Function.update pool.idle key queue }

/-- `take`: the oldest session that is not expired. -/
def take (pool : PgTcpIdlePool) (now : Nat) (key : String) : Option PgTcpSession × PgTcpIdlePool :=
  match (pool.idle key).dropWhile (pool.expired now) with
  | [] => (none, pool.setQueue key [])
  | entry :: rest => (some entry.session, pool.setQueue key rest)

def put (pool : PgTcpIdlePool) (now : Nat) (key : String) (session : PgTcpSession) : PgTcpIdlePool :=
  let queue := (pool.idle key).dropWhile (pool.expired now)
  let queue := if pool.maxPerKey ≤ queue.length then queue.tail else queue
  pool.setQueue key (queue ++ [⟨session, now⟩])

def purgeExpired (pool : PgTcpIdlePool) (now : Nat) : PgTcpIdlePool :=
  { pool with idle := fun key => (pool.idle key).filter fun entry => !pool.expired now entry }

end PgTcpIdlePool

/-- What the outside world does while one idle candidate is tried. -/
structure Attempt where
  now : Nat
  unsent : Option String
  /-- What the backend answers to `SELECT 1`. -/
  answer : List Frame
  reads : List Read

/-- A probe that was made: what the backend answered, what was read, and whether the session passed. -/
structure Probed where
  answer : List Frame
  frames : List Frame
  passed : Bool

/-- The loop of `take_or_connect` over idle candidates, `rounds` of them at most. -/
def tryIdle (key : String) : Nat → List Attempt → PgTcpIdlePool →
    Option PgTcpSession × List Probed × PgTcpIdlePool
  | 0, _, pool => (none, [], pool)
  | _ + 1, [], pool => (none, [], pool)
  | rounds + 1, attempt :: attempts, pool =>
    match pool.take attempt.now key with
    | (none, pool) => (none, [], pool)
    | (some s, pool) =>
      if !pool.healthProbe then (some s, [], pool)
      else
        match s.healthCheck attempt.unsent attempt.answer attempt.reads with
        | (frames, .ok s) => (some s, [⟨attempt.answer, frames, true⟩], pool)
        | (frames, .error _) =>
          let rest := tryIdle key rounds attempts pool
          (rest.1, ⟨attempt.answer, frames, false⟩ :: rest.2.1, rest.2.2)

/-- `take_or_connect`; `connects`: a new connection can be made. -/
def PgTcpIdlePool.takeOrConnect (pool : PgTcpIdlePool) (key : String) (attempts : List Attempt)
    (connects : Bool) : Option PgTcpSession × List Probed × PgTcpIdlePool :=
  match tryIdle key pool.maxPerKey attempts pool with
  | (some s, probed, pool) => (some s, probed, pool)
  | (none, probed, pool) => (if connects then some .connected else none, probed, pool)

/-! ## Where a session is returned -/

/-- `SessionReturn`; pools and slots go by number. -/
inductive SessionReturn where
  | drop
  | txn (slot : Nat)
  | idle (pool : Nat) (key : String)
  | idleOrTxn (pool : Nat) (key : String) (txn : Nat)
  | hold (slot : Nat)
deriving DecidableEq

/-- The destination does not depend on how far the response was read. -/
def SessionReturn.fixed : SessionReturn → Bool
  | .drop => false
  | .txn _ => true
  | .idle _ _ => true
  | .idleOrTxn _ _ _ => false
  | .hold _ => true

/-- The idle pools and the `PgTcpTxnSlot`s. -/
structure Places where
  pools : Nat → PgTcpIdlePool
  slots : Nat → Option PgTcpSession

namespace Places

/-- `pool.put(key, sess)`. -/
def putIdle (p : Places) (now pool : Nat) (key : String) (s : PgTcpSession) : Places :=
  { p with pools := Function.update p.pools pool ((p.pools pool).put now key s) }

/-- `*slot.lock() = ..`. -/
def setSlot (p : Places) (slot : Nat) (s : Option PgTcpSession) : Places :=
  { p with slots := Function.update p.slots slot s }

end Places

structure PgTcpWireStream where
  session : Option PgTcpSession
  returnTo : SessionReturn
  done : Bool
  stopBeforeReady : Bool
  readyStatus : Option UInt8

namespace PgTcpWireStream

/-- Where `finish_session` puts the session. -/
def giveBack (st : PgTcpWireStream) (now : Nat) (s : PgTcpSession) (p : Places) : Places :=
  match st.returnTo with
  | .drop => p
  | .txn slot => p.setSlot slot (some s)
  | .hold slot => p.setSlot slot (some s)
  | .idle pool key => p.putIdle now pool key s
  | .idleOrTxn pool key txn =>
    if st.readyStatus = some (UInt8.ofNat 'I'.toNat) then p.putIdle now pool key s
    else if st.readyStatus = some (UInt8.ofNat 'T'.toNat) ∨
        st.readyStatus = some (UInt8.ofNat 'E'.toNat) then p.setSlot txn (some s)
    -- a partially drained or malformed response is not reusable
    else p

/-- `finish_session`; also what `Drop` runs. -/
def finishSession (st : PgTcpWireStream) (now : Nat) (p : Places) : PgTcpWireStream × Places :=
  match st.session with
  | none => (st, p)
  | some s => ({ st with session := none }, st.giveBack now s p)

/-- The frame at which `poll_packets` ends the response. -/
def endsUnit (stopBeforeReady : Bool) (f : Frame) : Bool := isReady f || (stopBeforeReady && endsPage f)

/-- The status byte of a ReadyForQuery, if the frame is one. -/
def noteReady (status : Option UInt8) (f : Frame) : Option UInt8 :=
  if isReady f && decide (6 ≤ f.length) then f[5]? else status

end PgTcpWireStream

/-- How `poll_packets` ends. -/
inductive Poll where
  | packets (batch : List Frame)
  | none
  | failed (e : GatewayError)
  | waiting

/-- `Some(batch)`, or `None` for an empty one. -/
def Poll.ofBatch (batch : List Frame) : Poll := if batch.isEmpty then .none else .packets batch

/-- `poll_packets`.  The list of frames is what was read off the session: a poll that fails or is dropped
    loses it. -/
def PgTcpWireStream.pollPackets (st : PgTcpWireStream) (now maxPackets : Nat) (reads : List Read)
    (p : Places) : Poll × List Frame × PgTcpWireStream × Places :=
  if st.done then (.none, [], st, p)
  else
    match st.session with
    | none => (.failed (.backend "pg relay session missing"), [], st, p)
    | some s =>
      let r := readFrames (endsUnit st.stopBeforeReady) (max maxPackets 1) reads s
      let st := { st with session := some r.2.2, readyStatus := r.1.foldl noteReady st.readyStatus }
      match r.2.1 with
      | .failed e => (.failed e, r.1, st, p)
      | .waiting => (.waiting, r.1, st, p)
      | .full => (.ofBatch r.1, r.1, st, p)
      | .found => (.ofBatch r.1, r.1, ({ st with done := true }).finishSession now p)
      | .closed => (.ofBatch r.1, r.1, ({ st with done := true }).finishSession now p)

/-! ## Requests -/

inductive Message where
  | query (sql : String)
  | parse (sql : String)
  | bind (params : List (Option (List UInt8)))
  | describePortal (portal : List UInt8)
  | execute
  | sync
  | flush
  /-- A message of the client, as it came. -/
  | client (frame : List UInt8)

def Message.tag : Message → Option UInt8
  | .query _ => some (UInt8.ofNat 'Q'.toNat)
  | .parse _ => some (UInt8.ofNat 'P'.toNat)
  | .bind _ => some (UInt8.ofNat 'B'.toNat)
  | .describePortal _ => some (UInt8.ofNat 'D'.toNat)
  | .execute => some (UInt8.ofNat 'E'.toNat)
  | .sync => some (UInt8.ofNat 'S'.toNat)
  | .flush => some (UInt8.ofNat 'H'.toNat)
  | .client frame => frame.head?

/-- The portal that a Bind names: the text up to the first zero of its body. -/
def bindPortal (frame : List UInt8) : Option (List UInt8) :=
  if hasTag 'B' frame && decide (5 < frame.length) && (frame.drop 5).contains 0 then
    some ((frame.drop 5).takeWhile (· != 0))
  else none

/-- The loop over the client's frames: a Describe is put in front of an Execute without one, or at the end. -/
def withDescribe (sawDescribe : Bool) (boundPortal : Option (List UInt8)) : List (List UInt8) → List Message
  | [] =>
    match boundPortal with
    | some portal => if sawDescribe then [] else [.describePortal portal]
    | none => []
  | frame :: frames =>
    let sawDescribe := sawDescribe || hasTag 'D' frame
    let boundPortal := (bindPortal frame).or boundPortal
    match boundPortal with
    | some portal =>
      if !sawDescribe && hasTag 'E' frame then
        .describePortal portal :: .client frame :: withDescribe true boundPortal frames
      else .client frame :: withDescribe sawDescribe boundPortal frames
    | none => .client frame :: withDescribe sawDescribe boundPortal frames

/-- The functions of `PgTcpSession` that relay a request. -/
inductive Request where
  /-- `simple_query_relay_into`. -/
  | simpleQuery (sql : String)
  /-- `client_frames_relay_into`. -/
  | clientFrames (frames : List (List UInt8))
  /-- `client_frames_relay_hold_into`. -/
  | clientFramesHold (frames : List (List UInt8))
  /-- `client_execute_relay_hold_into`. -/
  | clientExecuteHold (frames : List (List UInt8))
  /-- `client_sync_relay_into`. -/
  | clientSync
  /-- `extended_text_bind_relay_into`. -/
  | extendedTextBind (sql : String) (params : List (Option (List UInt8)))

inductive Unsent where
  | encode (message : String)
  | bind
  | write (message : String)
  | flush (message : String)

namespace Request

def messages : Request → List Message
  | .simpleQuery sql => [.query sql]
  | .clientFrames frames => withDescribe false none frames ++ [.sync]
  | .clientFramesHold frames => withDescribe false none frames ++ [.flush]
  | .clientExecuteHold frames => frames.map .client ++ [.flush]
  | .clientSync => [.sync]
  | .extendedTextBind sql params => [.parse sql, .bind params, .describePortal [], .execute, .sync]

def stopBeforeReady : Request → Bool
  | .clientFramesHold _ => true
  | .clientExecuteHold _ => true
  | _ => false

def refused : Request → Option GatewayError
  | .clientFrames [] => some (.backend "pg client frame relay: empty frame list")
  | .clientFramesHold [] => some (.backend "pg client frame hold relay: empty frame list")
  | .clientExecuteHold [] => some (.backend "pg client execute hold relay: empty")
  | _ => none

/-- The error of a request that could not be sent. -/
def sendError : Request → Unsent → GatewayError
  | .simpleQuery _, .encode m => .backend ("pg query encode: " ++ m)
  | .simpleQuery _, .write m => .backend ("pg query write: " ++ m)
  | .clientFrames _, .encode m => .backend ("pg client-frame describe inject: " ++ m)
  | .clientFrames _, .write m => .backend ("pg client frame write: " ++ m)
  | .clientFramesHold _, .encode m => .backend ("pg client-frame describe inject: " ++ m)
  | .clientFramesHold _, .write m => .backend ("pg client frame hold write: " ++ m)
  | .clientFramesHold _, .flush m => .backend ("pg client frame hold flush: " ++ m)
  | .clientExecuteHold _, .write m => .backend ("pg client execute write: " ++ m)
  | .clientSync, .write m => .backend ("pg client sync write: " ++ m)
  | .extendedTextBind _ _, .encode m => .backend ("pg extended parse encode: " ++ m)
  | .extendedTextBind _ _, .bind => .backend "pg extended bind encode failed"
  | .extendedTextBind _ _, .write m => .backend ("pg extended write: " ++ m)
  -- steps that the other requests do not have
  | _, .encode m => .backend m
  | _, .bind => .backend ""
  | _, .flush m => .backend m

/-- The request on a session, which is gone if the request cannot be sent. -/
def relayInto (request : Request) (s : PgTcpSession) (returnTo : SessionReturn) (unsent : Option Unsent)
    (answer : List Frame) : Except GatewayError PgTcpWireStream :=
  match request.refused, unsent with
  | some e, _ => .error e
  | none, some failure => .error (request.sendError failure)
  | none, none => .ok ⟨some (s.send answer), returnTo, false, request.stopBeforeReady, none⟩

end Request

end DataNexus.Wire
