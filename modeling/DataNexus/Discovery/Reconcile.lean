/-
  The monitor loop that keeps the read and write endpoints up to date
  (`proxy/strategy/src/discovery/monitor_reconcile.rs`, `proxy/strategy/src/monitors/`).

  Four monitors report on the configured endpoints: connection, ping, lag and role.  A round of
  `MonitorReconcile::report` promotes a replica that reports to be the master when a primary is down, takes replicas that
  are not well out of the read list, and sends the lists out if they have changed.

  A report is the list of its entries in the order of iteration.  `none` is a panic: of an `unwrap`, or of `Vec::remove`
  beyond the end.  How the monitors find out what they report is left out.
-/
import DataNexus.Lib.Removal

namespace DataNexus.Discovery

/-! ## Endpoints and reports -/

structure Endpoint where
  nodeType : String
  weight : Int
  name : String
  db : String
  user : String
  password : String
  addr : String
deriving DecidableEq

structure ReadWriteEndpoint where
  read : List Endpoint
  readwrite : List Endpoint
deriving DecidableEq

inductive ConnectStatus where
  | connected
  | disconnected
deriving DecidableEq

inductive PingStatus where
  | pingOk
  | pingNotOk
deriving DecidableEq

inductive NodeRole where
  | master
  | slave
deriving DecidableEq

structure ReplicationLagResponseInner where
  lag : Nat
  isLatency : Bool
deriving DecidableEq

structure ConnectMonitorResponse where
  read : List (String × ConnectStatus)
  readwrite : List (String × ConnectStatus)

structure PingMonitorResponse where
  read : List (String × PingStatus)
  readwrite : List (String × PingStatus)

structure ReplicationLagMonitorResponse where
  latency : List (String × ReplicationLagResponseInner)

structure ReadOnlyMonitorResponse where
  roles : List (String × NodeRole)

inductive MonitorResponse where
  | connect (response : ConnectMonitorResponse)
  | ping (response : PingMonitorResponse)
  | replicationLag (response : ReplicationLagMonitorResponse)
  | readOnly (response : ReadOnlyMonitorResponse)

/-- The settings of `MasterHighAvailability` that the loop reads. -/
structure MasterHighAvailability where
  readOnlyEnabled : Bool
  replicationLagEnabled : Bool
deriving DecidableEq

/-! ## Replicas -/

/-- `Vec::remove`. -/
def vecRemove {α : Type} (xs : List α) (i : Nat) : Option (List α) :=
  if i < xs.length then some (xs.eraseIdx i) else none

/-- `curr_rw_endpoint.read.remove(rw_endpoint.read.iter().position(|r| r.addr.eq(addr)).unwrap())`: the index is
    that of the CONFIGURED list. -/
def removeRead (rwEndpoint : ReadWriteEndpoint) (addr : String) (curr : ReadWriteEndpoint) :
    Option ReadWriteEndpoint := do
  let i ← rwEndpoint.read.findIdx? (·.addr == addr)
  let read ← vecRemove curr.read i
  some { curr with read := read }

/-- The body of the loop of `change_read_by_lag`. -/
def changeReadByLagEntry (rwEndpoint : ReadWriteEndpoint) (curr : ReadWriteEndpoint)
    (entry : String × ReplicationLagResponseInner) : Option ReadWriteEndpoint :=
  if !entry.2.isLatency then
    match curr.read.find? (·.addr == entry.1) with
    | some _ => some curr
    | none => some { curr with read := curr.read ++ curr.read }
  else removeRead rwEndpoint entry.1 curr

def changeReadByLag (mha : MasterHighAvailability) (rwEndpoint : ReadWriteEndpoint)
    (lag : Option ReplicationLagMonitorResponse) (curr : ReadWriteEndpoint) : Option ReadWriteEndpoint :=
  if mha.replicationLagEnabled then
    match lag with
    | some response => response.latency.foldlM (changeReadByLagEntry rwEndpoint) curr
    | none => some curr
  else some curr

/-- The body of the loop over the pings in `change_read_if_necessary`. -/
def changeReadByPing (mha : MasterHighAvailability) (rwEndpoint : ReadWriteEndpoint)
    (lag : Option ReplicationLagMonitorResponse) (curr : ReadWriteEndpoint) (entry : String × PingStatus) :
    Option ReadWriteEndpoint :=
  match entry.2 with
  | .pingOk => changeReadByLag mha rwEndpoint lag curr
  | .pingNotOk => removeRead rwEndpoint entry.1 curr

/-- The body of the loop over the connections in `change_read_if_necessary`. -/
def changeReadByConnect (mha : MasterHighAvailability) (rwEndpoint : ReadWriteEndpoint)
    (ping : Option PingMonitorResponse) (lag : Option ReplicationLagMonitorResponse) (curr : ReadWriteEndpoint)
    (entry : String × ConnectStatus) : Option ReadWriteEndpoint :=
  match entry.2 with
  | .connected =>
    match ping with
    | some response => response.read.foldlM (changeReadByPing mha rwEndpoint lag) curr
    | none => some curr
  | .disconnected => removeRead rwEndpoint entry.1 curr

def changeReadIfNecessary (mha : MasterHighAvailability) (rwEndpoint : ReadWriteEndpoint)
    (connect : Option ConnectMonitorResponse) (ping : Option PingMonitorResponse)
    (lag : Option ReplicationLagMonitorResponse) (curr : ReadWriteEndpoint) : Option ReadWriteEndpoint := do
  let response ← connect
  response.read.foldlM (changeReadByConnect mha rwEndpoint ping lag) curr

/-! ## The primary -/

/-- The body of the loop of `change_slave_to_master_by_read_only`. -/
def promote (mha : MasterHighAvailability) (readOnly : Option ReadOnlyMonitorResponse) (curr : ReadWriteEndpoint)
    (readEndpoint : Endpoint) : Option ReadWriteEndpoint :=
  if mha.readOnlyEnabled then
    match readOnly with
    | some response =>
      match response.roles.lookup readEndpoint.addr with
      | none => none
      | some .master => some { curr with readwrite := [readEndpoint] }
      | some .slave => some curr
    | none => some curr
  else some curr

def changeSlaveToMasterByReadOnly (mha : MasterHighAvailability) (readOnly : Option ReadOnlyMonitorResponse)
    (curr : ReadWriteEndpoint) : Option ReadWriteEndpoint :=
  curr.read.foldlM (promote mha readOnly) curr

/-- The body of the loop over the pings in `change_read_write_if_necessary`. -/
def changeReadWriteByPing (mha : MasterHighAvailability) (readOnly : Option ReadOnlyMonitorResponse)
    (curr : ReadWriteEndpoint) (entry : String × PingStatus) : Option ReadWriteEndpoint :=
  match entry.2 with
  | .pingOk => some curr
  | .pingNotOk => if curr.read.length > 0 then changeSlaveToMasterByReadOnly mha readOnly curr else some curr

/-- The body of the loop over the connections in `change_read_write_if_necessary`. -/
def changeReadWriteByConnect (mha : MasterHighAvailability) (ping : Option PingMonitorResponse)
    (readOnly : Option ReadOnlyMonitorResponse) (curr : ReadWriteEndpoint) (entry : String × ConnectStatus) :
    Option ReadWriteEndpoint :=
  match entry.2 with
  | .connected => do
    let response ← ping
    response.readwrite.foldlM (changeReadWriteByPing mha readOnly) curr
  | .disconnected => changeSlaveToMasterByReadOnly mha readOnly curr

def changeReadWriteIfNecessary (mha : MasterHighAvailability) (connect : Option ConnectMonitorResponse)
    (ping : Option PingMonitorResponse) (readOnly : Option ReadOnlyMonitorResponse) (curr : ReadWriteEndpoint) :
    Option ReadWriteEndpoint := do
  let response ← connect
  response.readwrite.foldlM (changeReadWriteByConnect mha ping readOnly) curr

/-! ## One round -/

/-- What `MonitorReconcile::report` keeps: the last report of each monitor, and the lists of the round before. -/
structure Report where
  connect : Option ConnectMonitorResponse
  ping : Option PingMonitorResponse
  lag : Option ReplicationLagMonitorResponse
  readOnly : Option ReadOnlyMonitorResponse
  pre : ReadWriteEndpoint

/-- At the start of `MonitorReconcile::report`. -/
def Report.start (rwEndpoint : ReadWriteEndpoint) : Report := ⟨none, none, none, none, rwEndpoint⟩

/-- A report that came in replaces the last one of its monitor. -/
def Report.receive (report : Report) : MonitorResponse → Report
  | .connect response => { report with connect := some response }
  | .ping response => { report with ping := some response }
  | .replicationLag response => { report with lag := some response }
  | .readOnly response => { report with readOnly := some response }

def Report.reconcile (mha : MasterHighAvailability) (rwEndpoint : ReadWriteEndpoint) (report : Report) :
    Option ReadWriteEndpoint := do
  let curr ← changeReadWriteIfNecessary mha report.connect report.ping report.readOnly rwEndpoint
  changeReadIfNecessary mha rwEndpoint report.connect report.ping report.lag curr

/-- One round of the loop of `MonitorReconcile::report`: what is sent, and what is kept. -/
def Report.round (mha : MasterHighAvailability) (rwEndpoint : ReadWriteEndpoint) (report : Report)
    (responses : List MonitorResponse) : Option (Option ReadWriteEndpoint × Report) := do
  let report := responses.foldl Report.receive report
  let curr ← report.reconcile mha rwEndpoint
  some (if report.pre ≠ curr then some curr else none, { report with pre := curr })

end DataNexus.Discovery
