import CloudOS.Lib.JsonText
import CloudOS.Lib.TypedKeys

/-!
# Task logs, states and events in Redis

`RedisStreamStore` of `storage/task_store.py`, and the push with which
`submit_task` of `scheduler/scheduler_api.py` queues a task in the same server.
Objects are stored as JSON texts and read back from them.  Readings of the clock
and the ids of stream records are given with the calls.  A call that publishes on
a channel does so after it has written; the messages are kept apart from the keys.
-/

set_option autoImplicit false

namespace CloudOS.Storage.TaskStreams

open CloudOS.Lib.History
open CloudOS.Lib.JsonText
open CloudOS.Lib.TypedKeys

abbrev Text := List Char

structure Record where
  id : String
  fields : List (String × Text)

abbrev Redis := Keyspace String Text Record

def streamKey : String := "cloudos:task-events"

def queueKey : String := "cloudos:task-queue"

def logKey (taskId : String) : String := "cloudos:logs" ++ ":" ++ taskId

def statusKey (taskId : String) : String := "cloudos:status:" ++ taskId

inductive Call (F : Type) where
  | publishEvent (taskId event : String) (data : Value F) (now : F) (recordId : String)
  | pushLog (taskId message : String) (now : F)
  | setStatus (taskId status : String) (now : F)
  | queueTask (taskId command priority algorithm : String) (node : Option String)

section Calls
variable {F : Type} (floats : Floats F)

/-! ## The objects -/

def logEntry (taskId message : String) (now : F) : Value F :=
  .dict [("task_id", .text taskId), ("message", .text message), ("timestamp", .float now)]

def statusEntry (taskId status : String) (now : F) : Value F :=
  .dict [("task_id", .text taskId), ("status", .text status), ("timestamp", .float now)]

def queueEntry (taskId command priority algorithm : String) (node : Option String) : Value F :=
  .dict [("task_id", .text taskId), ("command", .text command), ("priority", .text priority),
    ("algorithm", .text algorithm), ("node", (node.map Value.text).getD .null)]

def eventRecord (taskId event : String) (data : Value F) (now : F) (recordId : String) : Record :=
  ⟨recordId, [("task_id", taskId.toList), ("event", event.toList), ("data", dumps floats data),
    ("timestamp", floats.repr now)]⟩

/-! ## Writing -/

def Call.command : Call F → Command String Text Record
  | .publishEvent taskId event data now recordId =>
      .xadd streamKey (eventRecord floats taskId event data now recordId)
  | .pushLog taskId message now =>
      .rpush (logKey taskId) (dumps floats (logEntry taskId message now))
  | .setStatus taskId status now =>
      .set (statusKey taskId) (dumps floats (statusEntry taskId status now))
  | .queueTask taskId command priority algorithm node =>
      .lpush queueKey (dumps floats (queueEntry taskId command priority algorithm node))

/-- The channel and the text of the message that follows. -/
def Call.published : Call F → Option (String × Text)
  | .pushLog taskId message now =>
      some ("cloudos:events", dumps floats (logEntry taskId message now))
  | _ => none

def served (calls : List (Call F)) : Redis := run (calls.map (Call.command floats))

/-! ## Reading; `none` is an exception -/

def getLogs (taskId : String) (r : Redis) : Option (List (Value F)) :=
  (items (logKey taskId) r).bind fun logs => logs.mapM (loads floats)

/-- An empty text is no status either. -/
def getStatus (taskId : String) (r : Redis) : Option (Option (Value F)) :=
  (get (statusKey taskId) r).bind fun val =>
    match val with
    | none => some none
    | some text => if text = [] then some none else (loads floats text).map some

end Calls

/-- The newest records first.  The client refuses a count below 1. -/
def getEvents (count : Nat) (r : Redis) : Option (List (List (String × Text))) :=
  if count < 1 then none
  else
    (records streamKey r).map fun events =>
      (events.reverse.take count).map fun event => ("id", event.id.toList) :: event.fields

def queueDepth (r : Redis) : Option Nat := (items queueKey r).map List.length

structure Stats where
  queueDepth : Nat
  streamLength : Nat
  connected : Bool
  deriving DecidableEq

def stats (r : Redis) : Option Stats := do
  let depth ← queueDepth r
  let events ← records streamKey r
  return ⟨depth, events.length, true⟩

/-! ## What a call says about a task -/

section Views
variable {F : Type}

def Call.log (taskId : String) : Call F → Option (Value F)
  | .pushLog id message now => if id = taskId then some (logEntry id message now) else none
  | _ => none

def Call.status (taskId : String) : Call F → Option (Value F)
  | .setStatus id status now => if id = taskId then some (statusEntry id status now) else none
  | _ => none

def Call.event (floats : Floats F) : Call F → Option Record
  | .publishEvent taskId event data now recordId =>
      some (eventRecord floats taskId event data now recordId)
  | _ => none

def Call.queued : Call F → Option (Value F)
  | .queueTask taskId command priority algorithm node =>
      some (queueEntry taskId command priority algorithm node)
  | _ => none

end Views

/-! ## The keys are apart -/

theorem logKey_inj {id id' : String} (same : logKey id = logKey id') : id = id' := by
  have lists := congrArg String.toList same
  simp only [logKey, String.toList_append, List.append_cancel_left_eq] at lists
  exact String.toList_injective lists

theorem statusKey_inj {id id' : String} (same : statusKey id = statusKey id') : id = id' := by
  have lists := congrArg String.toList same
  simp only [statusKey, String.toList_append, List.append_cancel_left_eq] at lists
  exact String.toList_injective lists

theorem ne_of_begins {s t : String} {first second : List Char} (begins : first <+: s.toList)
    (begins' : second <+: t.toList) (apart : ¬ first <+: second ∧ ¬ second <+: first) : s ≠ t := by
  rintro rfl
  rcases List.prefix_or_prefix_of_prefix begins begins' with before | before
  · exact apart.1 before
  · exact apart.2 before

theorem logKey_begins (id : String) : "cloudos:logs:".toList <+: (logKey id).toList :=
  ⟨id.toList, (String.toList_append).symm⟩

theorem statusKey_begins (id : String) : "cloudos:status:".toList <+: (statusKey id).toList :=
  ⟨id.toList, (String.toList_append).symm⟩

theorem logKey_ne_statusKey (id id' : String) : logKey id ≠ statusKey id' :=
  ne_of_begins (logKey_begins id) (statusKey_begins id') (by decide)

theorem logKey_ne_streamKey (id : String) : logKey id ≠ streamKey :=
  ne_of_begins (logKey_begins id) List.prefix_rfl (by decide)

theorem logKey_ne_queueKey (id : String) : logKey id ≠ queueKey :=
  ne_of_begins (logKey_begins id) List.prefix_rfl (by decide)

theorem statusKey_ne_streamKey (id : String) : statusKey id ≠ streamKey :=
  ne_of_begins (statusKey_begins id) List.prefix_rfl (by decide)

theorem statusKey_ne_queueKey (id : String) : statusKey id ≠ queueKey :=
  ne_of_begins (statusKey_begins id) List.prefix_rfl (by decide)

theorem streamKey_ne_queueKey : streamKey ≠ queueKey := by decide

/-! ## What the keys hold after any calls -/

section Served
variable {F : Type} (floats : Floats F) (taskId : String) (calls : List (Call F))

theorem items_logKey : items (logKey taskId) (served floats calls) =
    some ((calls.filterMap (Call.log taskId)).map (dumps floats)) := by
  rw [List.map_filterMap, served, ← List.filterMap_eq_map]
  refine items_run_rpush ⟨?_, ?_⟩
  · rintro call - made ⟨⟩ here
    cases call with
    | publishEvent id event data now recordId => exact absurd here.symm (logKey_ne_streamKey _)
    | pushLog id message now =>
        obtain rfl := logKey_inj here
        exact ⟨_, by rw [Call.log, if_pos rfl, Option.map_some], rfl⟩
    | setStatus id status now => exact absurd here.symm (logKey_ne_statusKey _ _)
    | queueTask id command priority algorithm node => exact absurd here.symm (logKey_ne_queueKey _)
  · intro call _ elsewhere
    cases call with
    | pushLog id message now =>
        rw [Call.log, if_neg (fun same => elsewhere _ rfl (congrArg logKey same)), Option.map_none]
    | _ => rfl

theorem get_statusKey : get (statusKey taskId) (served floats calls) =
    some ((calls.filterMap (Call.status taskId)).getLast?.map (dumps floats)) := by
  rw [← List.getLast?_map, List.map_filterMap, served,
    ← List.filterMap_eq_map]
  refine get_run ⟨?_, ?_⟩
  · rintro call - made ⟨⟩ here
    cases call with
    | publishEvent id event data now recordId => exact absurd here.symm (statusKey_ne_streamKey _)
    | pushLog id message now => exact absurd here (logKey_ne_statusKey _ _)
    | setStatus id status now =>
        obtain rfl := statusKey_inj here
        exact ⟨_, by rw [Call.status, if_pos rfl, Option.map_some], rfl⟩
    | queueTask id command priority algorithm node => exact absurd here.symm (statusKey_ne_queueKey _)
  · intro call _ elsewhere
    cases call with
    | setStatus id status now =>
        rw [Call.status, if_neg (fun same => elsewhere _ rfl (congrArg statusKey same)), Option.map_none]
    | _ => rfl

theorem records_streamKey : records streamKey (served floats calls) =
    some (calls.filterMap (Call.event floats)) := by
  rw [served, ← List.filterMap_eq_map]
  refine records_run ⟨?_, ?_⟩
  · rintro call - made ⟨⟩ here
    cases call with
    | publishEvent id event data now recordId => exact ⟨_, rfl, rfl⟩
    | pushLog id message now => exact absurd here (logKey_ne_streamKey _)
    | setStatus id status now => exact absurd here (statusKey_ne_streamKey _)
    | queueTask id command priority algorithm node => exact absurd here.symm streamKey_ne_queueKey
  · intro call _ elsewhere
    cases call with
    | publishEvent id event data now recordId => exact absurd rfl (elsewhere _ rfl)
    | _ => rfl

theorem items_queueKey : items queueKey (served floats calls) =
    some ((calls.filterMap Call.queued).map (dumps floats)).reverse := by
  rw [List.map_filterMap, served, ← List.filterMap_eq_map]
  refine items_run_lpush ⟨?_, ?_⟩
  · rintro call - made ⟨⟩ here
    cases call with
    | publishEvent id event data now recordId => exact absurd here streamKey_ne_queueKey
    | pushLog id message now => exact absurd here (logKey_ne_queueKey _)
    | setStatus id status now => exact absurd here (statusKey_ne_queueKey _)
    | queueTask id command priority algorithm node => exact ⟨_, rfl, rfl⟩
  · intro call _ elsewhere
    cases call with
    | queueTask id command priority algorithm node => exact absurd rfl (elsewhere _ rfl)
    | _ => rfl

/-! ## Reading back -/

/-- What is read after the calls is what they said about each task. -/
structure ReadBack (r : Redis) : Prop where
  logs : ∀ taskId, getLogs floats taskId r = some (calls.filterMap (Call.log taskId))
  status : ∀ taskId, getStatus floats taskId r = some (calls.filterMap (Call.status taskId)).getLast?
  events : ∀ count, 0 < count → getEvents count r =
    some (((calls.filterMap (Call.event floats)).reverse.take count).map
      fun event => ("id", event.id.toList) :: event.fields)
  stats : stats r = some ⟨(calls.filterMap Call.queued).length,
    (calls.filterMap (Call.event floats)).length, true⟩

theorem getLogs_served :
    getLogs floats taskId (served floats calls) = some (calls.filterMap (Call.log taskId)) := by
  rw [getLogs, items_logKey, Option.bind_some, mapM_loads_dumps]

theorem getStatus_served : getStatus floats taskId (served floats calls) =
    some (calls.filterMap (Call.status taskId)).getLast? := by
  rw [getStatus, get_statusKey, Option.bind_some]
  cases (calls.filterMap (Call.status taskId)).getLast? with
  | none => rfl
  | some status =>
      have written : dumps floats status ≠ [] := by
        obtain ⟨c, rest, shape, _⟩ := dumps_head floats status
        rw [shape]
        exact List.cons_ne_nil c rest
      simp only [Option.map_some, if_neg written, loads_dumps]

theorem queueDepth_served :
    queueDepth (served floats calls) = some (calls.filterMap Call.queued).length := by
  rw [queueDepth, items_queueKey, Option.map_some, List.length_reverse, List.length_map]

/-- The store reads back what was written, whatever the order of the calls. -/
theorem served_readBack : ReadBack floats calls (served floats calls) where
  logs taskId := getLogs_served floats taskId calls
  status taskId := getStatus_served floats taskId calls
  events count some_ := by
    rw [getEvents, if_neg (Nat.not_lt.mpr some_), records_streamKey, Option.map_some]
  stats := by
    rw [stats, queueDepth_served, records_streamKey]
    rfl

end Served

end CloudOS.Storage.TaskStreams
