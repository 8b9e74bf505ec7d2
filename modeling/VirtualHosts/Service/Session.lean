import VirtualHosts.Service.Reload

/-!
Sessions with a live table: tables are put in its place, snapshots are taken,
and hosts are looked up in the live table or in a snapshot.
-/

namespace VirtualHosts.Service

open VirtualHosts.Proxy

structure Session where
  live : LiveTable
  snapshots : List (String × PublishedTable)
  /-- What was counted, in order. -/
  events : List Event

inductive SessionStep where
  /-- Puts the table of a text in place. -/
  | replace (sites : String)
  /-- Reloads a file with such a content, or one that is missing. -/
  | reload (file? : Option (List UInt8))
  | snapshot (name : String)
  /-- Looks a host up, in a snapshot if one is named. -/
  | lookup (host : String) (name? : Option String)
  /-- Compares a snapshot with the live table. -/
  | compare (name : String)

inductive SessionResult where
  | replaced (changed : Bool)
  | refused (error : LoadError)
  | notSent
  | sent (changed : Bool)
  | hosts (hosts : List String)
  | route (route? : Option Route)
  | compared (identical equal : Bool)
  | noSnapshot (name : String)

namespace Session

def start : Session := ⟨.start .empty, [], []⟩

def sitePath : Files.Path := ⟨"Sitefile"⟩

def load (file? : Option (List UInt8)) : Except LoadError RouteTable := do
  let read :=
    match file? with
    | some content => Files.textOf content
    | none => .error (.unopened (.path .missing))
  let text ← textAt sitePath read
  tableOf text

def snapshot? (session : Session) (name : String) :
    Option PublishedTable :=
  session.snapshots.lookup name

def replace (session : Session) (table : RouteTable) : Bool × Session :=
  let (changed, live) := session.live.replace table
  (changed, { session with live := live })

def reload (session : Session) (file? : Option (List UInt8)) :
    SessionResult × Session :=
  let (sent?, events) := Service.reload (load file?)
  let session := { session with events := session.events ++ events }
  match sent? with
  | none => (.notSent, session)
  | some table =>
      let (changed, session) := session.replace table
      (.sent changed, session)

def step (session : Session) : SessionStep → SessionResult × Session
  | .replace sites =>
      match tableOf sites with
      | .error error => (.refused error, session)
      | .ok table =>
          let (changed, session) := session.replace table
          (.replaced changed, session)
  | .reload file? => session.reload file?
  | .snapshot name =>
      let taken := session.live.current
      (.hosts taken.table.hosts,
        { session with snapshots := (name, taken) :: session.snapshots })
  | .lookup host none =>
      (.route (session.live.current.table.lookup host), session)
  | .lookup host (some name) =>
      match session.snapshot? name with
      | some taken => (.route (taken.table.lookup host), session)
      | none => (.noSnapshot name, session)
  | .compare name =>
      match session.snapshot? name with
      | some taken =>
          let live := session.live.current
          (.compared (taken.serial = live.serial)
            (taken.table.same live.table), session)
      | none => (.noSnapshot name, session)

end Session

end VirtualHosts.Service
