import CloudOS.Lib.History
import Mathlib.Logic.Function.Basic

/-!
# Keys that hold texts, lists and streams

The part of a Redis server that storing needs.  A key holds a text, a list or a
stream of records; `SET` replaces whatever is there, and the other commands are
refused at a key of another kind.  A command sees and changes its own key only,
so that what a key holds after a run is decided by the commands at that key.
-/

set_option autoImplicit false

namespace CloudOS.Lib.TypedKeys

open CloudOS.Lib.History

inductive Content (T R : Type) where
  | text (content : T)
  | list (items : List T)
  | stream (records : List R)

abbrev Keyspace (K T R : Type) := K → Option (Content T R)

inductive Command (K T R : Type) where
  | set (key : K) (content : T)
  | rpush (key : K) (item : T)
  | lpush (key : K) (item : T)
  | xadd (key : K) (record : R)

variable {K T R : Type}

def Command.key : Command K T R → K
  | .set key _ => key
  | .rpush key _ => key
  | .lpush key _ => key
  | .xadd key _ => key

def Keyspace.empty : Keyspace K T R := fun _ => none

/-! ## Reading -/

/-- `none` when the key holds something else. -/
def get (key : K) (db : Keyspace K T R) : Option (Option T) :=
  match db key with
  | none => some none
  | some (.text content) => some (some content)
  | some _ => none

/-- `LRANGE key 0 -1`. -/
def items (key : K) (db : Keyspace K T R) : Option (List T) :=
  match db key with
  | none => some []
  | some (.list items) => some items
  | some _ => none

def records (key : K) (db : Keyspace K T R) : Option (List R) :=
  match db key with
  | none => some []
  | some (.stream records) => some records
  | some _ => none

/-! ## Writing -/

/-- What a command leaves at its key; `none` when it is refused. -/
def Command.written (db : Keyspace K T R) : Command K T R → Option (Content T R)
  | .set _ content => some (.text content)
  | .rpush key item => (items key db).map fun before => .list (before ++ [item])
  | .lpush key item => (items key db).map fun before => .list (item :: before)
  | .xadd key record => (records key db).map fun before => .stream (before ++ [record])

variable [DecidableEq K]

/-- A refused command changes nothing. -/
def step (db : Keyspace K T R) (command : Command K T R) : Keyspace K T R :=
  match command.written db with
  | none => db
  | some content => Function.update db command.key (some content)

def run (commands : List (Command K T R)) : Keyspace K T R := after step .empty commands

/-! ## A key and the commands at it -/

omit [DecidableEq K] in
theorem written_congr {db other : Keyspace K T R} {command : Command K T R}
    (same : db command.key = other command.key) : command.written db = command.written other := by
  cases command with
  | set key content => rfl
  | rpush key item =>
      simp only [Command.key] at same
      simp only [Command.written, items, same]
  | lpush key item =>
      simp only [Command.key] at same
      simp only [Command.written, items, same]
  | xadd key record =>
      simp only [Command.key] at same
      simp only [Command.written, records, same]

theorem step_elsewhere {db : Keyspace K T R} {command : Command K T R} {key : K}
    (elsewhere : command.key ≠ key) : step db command key = db key := by
  unfold step
  cases command.written db with
  | none => rfl
  | some content => exact Function.update_of_ne (Ne.symm elsewhere) _ _

theorem step_own {db : Keyspace K T R} {command : Command K T R} {content : Content T R}
    (written : command.written db = some content) : step db command command.key = some content := by
  rw [step, written]
  exact Function.update_self _ _ _

theorem step_congr {db other : Keyspace K T R} {key : K} (same : db key = other key)
    (command : Command K T R) : step db command key = step other command key := by
  by_cases here : command.key = key
  · have written : command.written db = command.written other :=
      written_congr (by rw [here]; exact same)
    cases put : command.written other with
    | none =>
        rw [step, step, written, put]
        exact same
    | some content =>
        rw [← here, step_own (written.trans put), step_own put]
  · rw [step_elsewhere here, step_elsewhere here, same]

theorem after_at (key : K) (commands : List (Command K T R)) {db other : Keyspace K T R}
    (same : db key = other key) :
    after step db commands key =
      after step other (commands.filter fun command => command.key = key) key := by
  induction commands generalizing db other with
  | nil => exact same
  | cons command rest ih =>
      by_cases here : command.key = key
      · rw [List.filter_cons_of_pos (by simpa using here), after_cons, after_cons]
        exact ih (step_congr same command)
      · rw [List.filter_cons_of_neg (by simpa using here), after_cons]
        exact ih ((step_elsewhere here).trans same)

/-- All the commands of the calls at the key are of one form, with what the calls have as
`content`. -/
structure UsedAs {C X : Type} (command : C → Option (Command K T R)) (content : C → Option X)
    (make : X → Command K T R) (key : K) (calls : List C) : Prop where
  own : ∀ call ∈ calls, ∀ made, command call = some made → made.key = key →
    ∃ x, content call = some x ∧ made = make x
  others : ∀ call ∈ calls, (∀ made, command call = some made → made.key ≠ key) →
    content call = none

theorem UsedAs.filter {C X : Type} {command : C → Option (Command K T R)} {content : C → Option X}
    {make : X → Command K T R} {key : K} {calls : List C}
    (used : UsedAs command content make key calls) :
    ((calls.filterMap command).filter fun made => made.key = key) =
      (calls.filterMap content).map make := by
  induction calls with
  | nil => rfl
  | cons call rest ih =>
      have later := ih ⟨fun call member => used.own call (List.mem_cons_of_mem _ member),
        fun call member => used.others call (List.mem_cons_of_mem _ member)⟩
      have here := used.own call List.mem_cons_self
      have unwritten := used.others call List.mem_cons_self
      cases made : command call with
      | none =>
          rw [List.filterMap_cons_none made,
            List.filterMap_cons_none (unwritten (by rw [made]; rintro _ ⟨⟩)), later]
      | some done =>
          rw [List.filterMap_cons_some made]
          by_cases same : done.key = key
          · obtain ⟨x, kept, isMade⟩ := here done made same
            rw [List.filter_cons_of_pos (by simpa using same), later,
              List.filterMap_cons_some kept, List.map_cons, isMade]
          · have elsewhere := unwritten (by rw [made]; rintro _ ⟨⟩; exact same)
            rw [List.filter_cons_of_neg (by simpa using same), later,
              List.filterMap_cons_none elsewhere]

section Pushes
variable {key : K}

theorem after_rpush (contents : List T) {db : Keyspace K T R} {before : List T}
    (held : items key db = some before) :
    items key (after step db (contents.map (.rpush key))) = some (before ++ contents) := by
  induction contents generalizing db before with
  | nil => rw [List.append_nil]; exact held
  | cons item rest ih =>
      have pushed : items key (step db (.rpush key item)) = some (before ++ [item]) := by
        have put : step db (.rpush key item) key = some (.list (before ++ [item])) :=
          step_own (congrArg (Option.map _) held)
        rw [items, put]
      rw [List.map_cons, after_cons, ih pushed, List.append_assoc]
      rfl

theorem after_lpush (contents : List T) {db : Keyspace K T R} {before : List T}
    (held : items key db = some before) :
    items key (after step db (contents.map (.lpush key))) = some (contents.reverse ++ before) := by
  induction contents generalizing db before with
  | nil => exact held
  | cons item rest ih =>
      have pushed : items key (step db (.lpush key item)) = some (item :: before) := by
        have put : step db (.lpush key item) key = some (.list (item :: before)) :=
          step_own (congrArg (Option.map _) held)
        rw [items, put]
      rw [List.map_cons, after_cons, ih pushed, List.reverse_cons, List.append_assoc]
      rfl

theorem after_xadd (added : List R) {db : Keyspace K T R} {before : List R}
    (held : records key db = some before) :
    records key (after step db (added.map (.xadd key))) = some (before ++ added) := by
  induction added generalizing db before with
  | nil => rw [List.append_nil]; exact held
  | cons record rest ih =>
      have pushed : records key (step db (.xadd key record)) = some (before ++ [record]) := by
        have put : step db (.xadd key record) key = some (.stream (before ++ [record])) :=
          step_own (congrArg (Option.map _) held)
        rw [records, put]
      rw [List.map_cons, after_cons, ih pushed, List.append_assoc]
      rfl

theorem after_set (contents : List T) {db : Keyspace K T R} {before : Option T}
    (held : get key db = some before) :
    get key (after step db (contents.map (.set key))) = some (contents.getLast?.or before) := by
  induction contents generalizing db before with
  | nil => exact held
  | cons content rest ih =>
      have put : get key (step db (.set key content)) = some (some content) := by
        have put : step db (.set key content) key = some (.text content) := step_own rfl
        rw [get, put]
      rw [List.map_cons, after_cons, ih put]
      cases rest with
      | nil => rfl
      | cons next rest =>
          rw [List.getLast?_cons_cons]
          cases last : (next :: rest).getLast? with
          | none => simp at last
          | some other => rfl

end Pushes

/-! ## Runs in which a key is used in one way -/

section Runs
variable {C : Type} {command : C → Option (Command K T R)} {content : C → Option T}
  {recorded : C → Option R} {key : K} {calls : List C}

theorem items_run_rpush (used : UsedAs command content (.rpush key) key calls) :
    items key (run (calls.filterMap command)) = some (calls.filterMap content) := by
  have held := @after_rpush K T R _ key (calls.filterMap content) .empty [] rfl
  rw [← used.filter, List.nil_append] at held
  rw [← held, items, items, run, after_at key _ rfl]

theorem items_run_lpush (used : UsedAs command content (.lpush key) key calls) :
    items key (run (calls.filterMap command)) = some (calls.filterMap content).reverse := by
  have held := @after_lpush K T R _ key (calls.filterMap content) .empty [] rfl
  rw [← used.filter, List.append_nil] at held
  rw [← held, items, items, run, after_at key _ rfl]

theorem records_run (used : UsedAs command recorded (.xadd key) key calls) :
    records key (run (calls.filterMap command)) = some (calls.filterMap recorded) := by
  have held := @after_xadd K T R _ key (calls.filterMap recorded) .empty [] rfl
  rw [← used.filter, List.nil_append] at held
  rw [← held, records, records, run, after_at key _ rfl]

theorem get_run (used : UsedAs command content (.set key) key calls) :
    get key (run (calls.filterMap command)) = some (calls.filterMap content).getLast? := by
  have held := @after_set K T R _ key (calls.filterMap content) .empty none rfl
  rw [← used.filter, Option.or_none] at held
  rw [← held, get, get, run, after_at key _ rfl]

end Runs

end CloudOS.Lib.TypedKeys
