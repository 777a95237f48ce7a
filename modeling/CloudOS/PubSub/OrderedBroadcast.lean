import CloudOS.Lib.Channels
import CloudOS.Lib.History
import CloudOS.PubSub.LocalSubscribers
import Mathlib.Data.List.Nodup

/-!
# Publishing as an ordered broadcast

Here `Subscribe`, `Unsubscribe` and `publish` do not overlap, contexts are not cancelled, and
a channel is registered at most once for a topic.  Only the receivers act on their own, also
while a message is handed round.  Then the subscriber slices, with what is left in their
arrays, are no different from a list of channels per topic (`Broadcast`), and what a channel
accepts is what was published to it while it was not full.
-/

set_option autoImplicit false

namespace CloudOS.PubSub.OrderedBroadcast

open CloudOS.Lib.Channels
open CloudOS.Lib.History
open CloudOS.Lib.Slices
open CloudOS.PubSub.LocalSubscribers

variable {Chan Msg : Type} [DecidableEq Chan]

abbrev Acts (Chan : Type) := List (Chan × Channel.Act)

def received (acts : Acts Chan) (channels : Chan → Channel Msg) : Chan → Channel Msg :=
  fun ch => (channels ch).after ch acts

/-! ## The code -/

/-- The `select` of one iteration; a nil channel is never ready. -/
def offerCell (message : Msg) (channels : Chan → Channel Msg) : Option Chan → Chan → Channel Msg
  | none => channels
  | some ch => Function.update channels ch ((channels ch).offer message)

/-- The iterations from `index` on; `between` is what the receivers do before each. -/
def deliverLoop (heap : Heap (Option Chan)) (subs : Slice) (message : Msg)
    (between : Nat → Acts Chan) : Nat → Nat → (Chan → Channel Msg) → Chan → Channel Msg
  | 0, _, channels => channels
  | remaining + 1, index, channels =>
      deliverLoop heap subs message between remaining (index + 1)
        (offerCell message (received (between index) channels) ((cells heap subs.array)[index]?).join)

def publish (r : RedisPubSub Chan) (channel : String) (message : Msg) (result : SendResult)
    (between : Nat → Acts Chan) (channels : Chan → Channel Msg) :
    Option String × (Chan → Channel Msg) :=
  if r.closed then (some "pubsub client is closed", channels)
  else
    match result.error channel with
    | some err => (some err, channels)
    | none =>
        let subs := (r.subscribers.slices channel).getD ⟨0, 0⟩
        (none, deliverLoop r.subscribers.heap subs message between subs.len 0 channels)

inductive Call (Chan Msg : Type) where
  | subscribe (channel : String) (ch : Chan)
  | unsubscribe (channel : String) (ch : Chan)
  | publish (channel : String) (message : Msg) (result : SendResult) (between : Nat → Acts Chan)
  | receive (acts : Acts Chan)

structure System (Chan Msg : Type) where
  pubsub : RedisPubSub Chan
  channels : Chan → Channel Msg

def System.fresh (capacity : Chan → Nat) : System Chan Msg :=
  ⟨⟨false, .empty⟩, fun ch => .make (capacity ch)⟩

def step (growth : Nat → Nat) (s : System Chan Msg) : Call Chan Msg → System Chan Msg
  | .subscribe channel ch => { s with pubsub := subscribe growth s.pubsub channel ch }
  | .unsubscribe channel ch => { s with pubsub := unsubscribe s.pubsub channel ch }
  | .publish channel message result between =>
      { s with channels := (publish s.pubsub channel message result between s.channels).2 }
  | .receive acts => { s with channels := received acts s.channels }

/-! ## The broadcast -/

structure Broadcast (Chan Msg : Type) where
  registered : String → List Chan
  channels : Chan → Channel Msg

def Broadcast.fresh (capacity : Chan → Nat) : Broadcast Chan Msg :=
  ⟨fun _ => [], fun ch => .make (capacity ch)⟩

def turns (between : Nat → Acts Chan) (start count : Nat) : Acts Chan :=
  (List.range' start count).flatMap between

def atTurn (subs : List Chan) (between : Nat → Acts Chan) (channels : Chan → Channel Msg)
    (ch : Chan) : Channel Msg :=
  (channels ch).after ch (turns between 0 (subs.idxOf ch + 1))

/-- Each channel of the list is offered the message once, at its turn. -/
def offered (subs : List Chan) (message : Msg) (between : Nat → Acts Chan)
    (channels : Chan → Channel Msg) (ch : Chan) : Channel Msg :=
  if ch ∈ subs then
    ((atTurn subs between channels ch).offer message).after ch
      (turns between (subs.idxOf ch + 1) (subs.length - (subs.idxOf ch + 1)))
  else (channels ch).after ch (turns between 0 subs.length)

def Broadcast.step (b : Broadcast Chan Msg) : Call Chan Msg → Broadcast Chan Msg
  | .subscribe topic ch =>
      { b with registered := Function.update b.registered topic (b.registered topic ++ [ch]) }
  | .unsubscribe topic ch =>
      { b with registered := Function.update b.registered topic ((b.registered topic).erase ch) }
  | .publish topic message result between =>
      if result.error topic = none then
        { b with channels := offered (b.registered topic) message between b.channels }
      else b
  | .receive acts => { b with channels := received acts b.channels }

def registersOnce : Broadcast Chan Msg × Call Chan Msg → Bool
  | (b, .subscribe topic ch) => ch ∉ b.registered topic
  | _ => true

/-- The message that a call has for the channel `ch`: one whose Redis publish succeeds, on a
topic where `ch` is registered, when `ch` is not full at its turn. -/
def due (ch : Chan) : Broadcast Chan Msg × Call Chan Msg → Option Msg
  | (b, .publish topic message result between) =>
      if result.error topic = none ∧ ch ∈ b.registered topic ∧
          (atTurn (b.registered topic) between b.channels ch).full = false then
        some message
      else none
  | _ => none

/-! ## The subscriber slices are lists -/

section Lists
variable {r : RedisPubSub Chan} {registered : String → List Chan}
  (lists : ∀ topic, r.subscribers.list topic = (registered topic).map some)
include lists

omit [DecidableEq Chan] in
theorem subscribe_list (growth : Nat → Nat) (channel : String) (ch : Chan) (topic : String) :
    (subscribe growth r channel ch).subscribers.list topic =
      (Function.update registered channel (registered channel ++ [ch]) topic).map some := by
  show (r.subscribers.push growth channel (some ch)).list topic = _
  by_cases same : topic = channel
  · subst same
    rw [SliceMap.push_list_self, lists, Function.update_self, List.map_append, List.map_singleton]
  · rw [SliceMap.push_list_of_ne growth _ _ same, lists, Function.update_of_ne same]

theorem unsubscribe_list (channel : String) (ch : Chan) (topic : String) :
    (unsubscribe r channel ch).subscribers.list topic =
      (Function.update registered channel ((registered channel).erase ch) topic).map some := by
  have erased : ((registered channel).erase ch).map some =
      (r.subscribers.list channel).erase (some ch) := by
    rw [lists, List.map_erase fun _ _ => Option.some.inj]
  unfold unsubscribe
  by_cases member : some ch ∈ r.subscribers.list channel
  · obtain ⟨s, at_channel, inside⟩ := SliceMap.slices_of_mem member
    simp only [if_pos member]
    by_cases same : topic = channel
    · subst same
      rw [SliceMap.eraseAt_list_self _ at_channel inside, Function.update_self, erased,
        List.eraseIdx_idxOf_eq_erase]
    · rw [SliceMap.eraseAt_list_of_ne _ at_channel inside same, lists, Function.update_of_ne same]
  · simp only [if_neg member]
    by_cases same : topic = channel
    · subst same
      rw [Function.update_self, erased, List.erase_of_not_mem member]
    · rw [lists, Function.update_of_ne same]

end Lists

theorem unsubscribe_closed (r : RedisPubSub Chan) (channel : String) (ch : Chan) :
    (unsubscribe r channel ch).closed = r.closed := by
  simp only [unsubscribe]
  split
  · rfl
  · rfl

omit [DecidableEq Chan] in
theorem nodup_update {registered : String → List Chan} (once : ∀ topic, (registered topic).Nodup)
    {topic : String} {list : List Chan} (nodup : list.Nodup) (other : String) :
    (Function.update registered topic list other).Nodup := by
  by_cases same : other = topic
  · subst same
    rwa [Function.update_self]
  · rw [Function.update_of_ne same]
    exact once other

/-! ## The delivery loop offers to each -/

omit [DecidableEq Chan] in
theorem turns_succ (between : Nat → Acts Chan) (start count : Nat) :
    turns between start (count + 1) = between start ++ turns between (start + 1) count := by
  rw [turns, List.range'_succ, List.flatMap_cons, turns]

theorem offerCell_self (message : Msg) (channels : Chan → Channel Msg) (ch : Chan) :
    offerCell message channels (some ch) ch = (channels ch).offer message :=
  Function.update_self _ _ _

theorem offerCell_of_ne (message : Msg) (channels : Chan → Channel Msg) {ch other : Chan}
    (different : other ≠ ch) : offerCell message channels (some ch) other = channels other :=
  Function.update_of_ne different _ _

/-- The loop reads the cells of the array, one channel each; `index` turns are over. -/
theorem deliverLoop_apply {heap : Heap (Option Chan)} {subs : Slice} (message : Msg)
    (between : Nat → Acts Chan) (ch : Chan) {list : List Chan} (once : list.Nodup) :
    ∀ (index : Nat) (channels : Chan → Channel Msg),
      (∀ i < list.length, (cells heap subs.array)[index + i]? = (list.map some)[i]?) →
      deliverLoop heap subs message between list.length index channels ch =
        if ch ∈ list then
          (((channels ch).after ch (turns between index (list.idxOf ch + 1))).offer message).after ch
            (turns between (index + (list.idxOf ch + 1)) (list.length - (list.idxOf ch + 1)))
        else (channels ch).after ch (turns between index list.length) := by
  induction list with
  | nil =>
      intro index channels _
      rfl
  | cons first rest ih =>
      intro index channels there
      obtain ⟨absent, once_rest⟩ := List.nodup_cons.mp once
      have here : (cells heap subs.array)[index]? = some (some first) := there 0 (by simp)
      have later : ∀ i < rest.length,
          (cells heap subs.array)[index + 1 + i]? = (rest.map some)[i]? := by
        intro i inside
        have next := there (i + 1) (by simpa using inside)
        rwa [List.map_cons, List.getElem?_cons_succ, Nat.add_comm i 1, ← Nat.add_assoc] at next
      simp only [List.length_cons, deliverLoop, here, Option.join_some]
      rw [ih once_rest (index + 1) _ later]
      by_cases own : ch = first
      · subst own
        rw [if_neg absent, if_pos List.mem_cons_self, List.idxOf_cons_self, offerCell_self,
          turns_succ, Nat.zero_add, Nat.add_sub_cancel]
        simp only [turns, List.range'_zero, List.flatMap_nil, List.append_nil]
        rfl
      · have mem_iff : ch ∈ first :: rest ↔ ch ∈ rest := by simp [own]
        rw [offerCell_of_ne _ _ own]
        by_cases member : ch ∈ rest
        · have shifted : index + 1 + (rest.idxOf ch + 1) = index + (rest.idxOf ch + 1 + 1) := by omega
          rw [if_pos member, if_pos (mem_iff.mpr member), List.idxOf_cons_ne rest (Ne.symm own),
            turns_succ between index, Channel.after_append, Nat.add_sub_add_right, shifted]
          rfl
        · rw [if_neg member, if_neg (mt mem_iff.mp member), turns_succ between index,
            Channel.after_append]
          rfl

/-! ## Runs -/

structure Refines (s : System Chan Msg) (b : Broadcast Chan Msg) : Prop where
  isOpen : s.pubsub.closed = false
  lists : ∀ topic, s.pubsub.subscribers.list topic = (b.registered topic).map some
  once : ∀ topic, (b.registered topic).Nodup
  channels : s.channels = b.channels

section Steps
variable {s : System Chan Msg} {b : Broadcast Chan Msg} (refines : Refines s b)
include refines

omit [DecidableEq Chan] in
theorem header_cells (topic : String) :
    ((s.pubsub.subscribers.slices topic).getD ⟨0, 0⟩).len = (b.registered topic).length ∧
      ∀ i < (b.registered topic).length,
        (cells s.pubsub.subscribers.heap
          ((s.pubsub.subscribers.slices topic).getD ⟨0, 0⟩).array)[0 + i]? =
            ((b.registered topic).map some)[i]? := by
  have list := refines.lists topic
  cases at_topic : s.pubsub.subscribers.slices topic with
  | none =>
      simp only [SliceMap.list, at_topic] at list
      have empty : b.registered topic = [] := List.map_eq_nil_iff.mp list.symm
      simp [empty]
  | some header =>
      rw [SliceMap.list_of_some at_topic] at list
      have length : header.len = (b.registered topic).length := by
        rw [← contents_length (s.pubsub.subscribers.valid topic header at_topic), list,
          List.length_map]
      refine ⟨length, ?_⟩
      intro i inside
      rw [← length] at inside
      rw [← list, Nat.zero_add]
      exact (contents_getElem? inside).symm

theorem publish_channels (topic : String) (message : Msg) {result : SendResult}
    (succeeds : result.error topic = none) (between : Nat → Acts Chan) :
    (publish s.pubsub topic message result between s.channels).2 =
      offered (b.registered topic) message between b.channels := by
  obtain ⟨length, there⟩ := header_cells refines topic
  unfold publish
  rw [refines.isOpen, succeeds]
  simp only [Bool.false_eq_true, if_false]
  rw [length, refines.channels]
  funext ch
  rw [deliverLoop_apply message between ch (refines.once topic) 0 b.channels there, Nat.zero_add]
  rfl

theorem publish_failed (topic : String) (message : Msg) {result : SendResult}
    (fails : result.error topic ≠ none) (between : Nat → Acts Chan) :
    (publish s.pubsub topic message result between s.channels).2 = s.channels := by
  obtain ⟨err, error⟩ := Option.ne_none_iff_exists'.mp fails
  unfold publish
  rw [refines.isOpen, error]
  rfl

theorem Refines.step (growth : Nat → Nat) (call : Call Chan Msg)
    (allowed : registersOnce (b, call) = true) :
    Refines (OrderedBroadcast.step growth s call) (b.step call) := by
  cases call with
  | subscribe topic ch =>
      have absent : ch ∉ b.registered topic := of_decide_eq_true allowed
      have apart : ∀ old ∈ b.registered topic, ∀ new ∈ [ch], old ≠ new := by
        intro old member new isNew same
        rw [same, List.mem_singleton.mp isNew] at member
        exact absent member
      have nodup : (b.registered topic ++ [ch]).Nodup :=
        List.nodup_append.mpr ⟨refines.once topic, List.nodup_singleton ch, apart⟩
      exact ⟨refines.isOpen, subscribe_list refines.lists growth topic ch,
        nodup_update refines.once nodup, refines.channels⟩
  | unsubscribe topic ch =>
      exact ⟨(unsubscribe_closed s.pubsub topic ch).trans refines.isOpen,
        unsubscribe_list refines.lists topic ch,
        nodup_update refines.once ((refines.once topic).erase ch), refines.channels⟩
  | publish topic message result between =>
      by_cases succeeds : result.error topic = none
      · simp only [Broadcast.step, if_pos succeeds]
        exact ⟨refines.isOpen, refines.lists, refines.once,
          publish_channels refines topic message succeeds between⟩
      · simp only [Broadcast.step, if_neg succeeds]
        exact ⟨refines.isOpen, refines.lists, refines.once,
          (publish_failed refines topic message succeeds between).trans refines.channels⟩
  | receive acts =>
      refine ⟨refines.isOpen, refines.lists, refines.once, ?_⟩
      show received acts s.channels = received acts b.channels
      rw [refines.channels]

end Steps

theorem refines_after {s : System Chan Msg} {b : Broadcast Chan Msg} (refines : Refines s b)
    (growth : Nat → Nat) {calls : List (Call Chan Msg)}
    (once : ∀ entry ∈ history Broadcast.step b calls, registersOnce entry = true) :
    Refines (after (step growth) s calls) (after Broadcast.step b calls) := by
  induction calls generalizing s b with
  | nil => exact refines
  | cons call rest ih =>
      simp only [history, List.forall_mem_cons] at once
      exact ih (refines.step growth call once.1) once.2

theorem accepted_offered (subs : List Chan) (message : Msg) (between : Nat → Acts Chan)
    (channels : Chan → Channel Msg) (ch : Chan) :
    (offered subs message between channels ch).accepted =
      if ch ∈ subs ∧ (atTurn subs between channels ch).full = false then
        (channels ch).accepted ++ [message]
      else (channels ch).accepted := by
  unfold offered
  by_cases member : ch ∈ subs
  · rw [if_pos member, Channel.accepted_after, Channel.accepted_offer, atTurn,
      Channel.accepted_after]
    cases full : ((channels ch).after ch (turns between 0 (subs.idxOf ch + 1))).full with
    | true => simp
    | false => simp [member]
  · rw [if_neg member, Channel.accepted_after, if_neg (fun both => member both.1)]

theorem accepted_step (b : Broadcast Chan Msg) (call : Call Chan Msg) (ch : Chan) :
    ((b.step call).channels ch).accepted =
      (b.channels ch).accepted ++ (due ch (b, call)).toList := by
  cases call with
  | subscribe topic other => exact (List.append_nil _).symm
  | unsubscribe topic other => exact (List.append_nil _).symm
  | publish topic message result between =>
      by_cases succeeds : result.error topic = none
      · simp only [Broadcast.step, due, succeeds, if_true, true_and]
        rw [accepted_offered]
        split
        · rfl
        · exact (List.append_nil _).symm
      · simp [Broadcast.step, due, succeeds]
  | receive acts =>
      refine (Channel.accepted_after ch acts (b.channels ch)).trans ?_
      exact (List.append_nil _).symm

theorem accepted_run (b : Broadcast Chan Msg) (calls : List (Call Chan Msg)) (ch : Chan) :
    ((after Broadcast.step b calls).channels ch).accepted =
      (b.channels ch).accepted ++ (history Broadcast.step b calls).filterMap (due ch) := by
  induction calls generalizing b with
  | nil => simp [history]
  | cons call rest ih =>
      rw [after_cons, ih, accepted_step, history, List.append_assoc]
      cases found : due ch (b, call) with
      | none => rw [List.filterMap_cons_none found, Option.toList_none, List.nil_append]
      | some message => rw [List.filterMap_cons_some found, Option.toList_some, List.singleton_append]

/-- In every run the channels are those of the broadcast, and what the receivers of a channel
have taken and what waits in its buffer are together the messages due to it, in the order
they were published. -/
theorem ordered_broadcast (growth : Nat → Nat) (capacity : Chan → Nat)
    (calls : List (Call Chan Msg))
    (once : ∀ entry ∈ history Broadcast.step (.fresh capacity) calls, registersOnce entry = true)
    (ch : Chan) :
    (after (step growth) (.fresh capacity) calls).channels ch =
        (after Broadcast.step (.fresh capacity) calls).channels ch ∧
      ((after (step growth) (.fresh capacity) calls).channels ch).taken ++
          ((after (step growth) (.fresh capacity) calls).channels ch).buffer =
        (history Broadcast.step (.fresh capacity) calls).filterMap (due ch) := by
  have start : Refines (.fresh capacity : System Chan Msg) (.fresh capacity) :=
    ⟨rfl, fun _ => rfl, fun _ => List.nodup_nil, rfl⟩
  have same := congrFun (refines_after start growth once).channels ch
  refine ⟨same, ?_⟩
  rw [same]
  exact accepted_run (.fresh capacity) calls ch

/-- Channel 1 leaves and channel 3 takes a cell that was left; the second message comes while
channel 2 has no room, the third finds its receiver waiting, and the last does not reach Redis. -/
def changing : List (Call Nat String) :=
  [.subscribe "jobs" 1, .subscribe "jobs" 2, .publish "jobs" "a" .ok fun _ => [],
    .unsubscribe "jobs" 1, .subscribe "jobs" 3, .publish "jobs" "b" .ok fun _ => [],
    .publish "jobs" "c" .ok fun turn => if turn = 0 then [(2, .receive), (2, .receive)] else [],
    .publish "jobs" "d" (.redis "timeout") fun _ => []]

theorem changing_broadcast :
    ((after (step fun n => 2 * n) (.fresh fun _ => 1) changing).channels 2).taken ++
        ((after (step fun n => 2 * n) (.fresh fun _ => 1) changing).channels 2).buffer =
      ["a", "c"] := by
  have once : ∀ entry ∈ history Broadcast.step (.fresh fun _ => 1) changing,
      registersOnce entry = true := by decide +kernel
  have messages : (history Broadcast.step (.fresh fun _ => 1) changing).filterMap (due 2) =
      ["a", "c"] := by decide +kernel
  rw [(ordered_broadcast (fun n => 2 * n) (fun _ => 1) changing once 2).2, messages]

end CloudOS.PubSub.OrderedBroadcast
