import CloudOS.Lib.History
import CloudOS.PubSub.LocalSubscribers

/-!
# Local delivery while subscribers come and go

`publish` walks over the backing array through a header it took earlier, and
`Unsubscribe` shifts entries within that array.  A subscriber that stays
registered gets the message exactly once unless it is shifted at a bad moment:
away from under the loop as the next one to be served, or as the last of the
list, whose old cell keeps it.
-/

set_option autoImplicit false

namespace CloudOS.PubSub.LocalDelivery

open CloudOS.Lib.History
open CloudOS.Lib.Slices
open CloudOS.PubSub.LocalSubscribers

variable {Chan : Type}

/-- `x` is on the channel's list exactly once and its buffer has room. -/
structure Attending [DecidableEq Chan] (channel : String) (x : Chan) (s : System Chan) : Prop where
  once : (s.pubsub.subscribers.list channel).count (some x) = 1
  room : s.full x = false

/-- An `Unsubscribe` on the array that is being delivered removes an entry in
front of `x`, which is still to be served and is the next one or the last. -/
def displaces [DecidableEq Chan] (channel : String) (x : Chan) (s : System Chan) :
    Event Chan → Bool
  | .unsubscribe name ch =>
      match s.publisher, s.pubsub.subscribers.slices channel with
      | .delivering subs index, some current =>
          let list := contents s.pubsub.subscribers.heap current
          name = channel ∧ current.array = subs.array ∧
            list.idxOf (some ch) < list.idxOf (some x) ∧ index ≤ list.idxOf (some x) ∧
            (list.idxOf (some x) = index ∨ list.idxOf (some x) + 1 = current.len)
      | _, _ => false
  | _ => false

/-! ## The one place of an entry -/

theorem idxOf_of_count_one {β : Type} [BEq β] [LawfulBEq β] {l : List β} {a : β}
    (once : l.count a = 1) :
    l[l.idxOf a]? = some a ∧ ∀ j : Nat, l[j]? = some a → j = l.idxOf a := by
  induction l with
  | nil => simp at once
  | cons b rest ih =>
      by_cases here : b = a
      · subst here
        have absent : rest.count b = 0 := by simpa using once
        refine ⟨by simp, ?_⟩
        intro j found
        cases j with
        | zero => simp
        | succ j =>
            rw [List.getElem?_cons_succ] at found
            exact absurd (List.mem_of_getElem? found) (List.count_eq_zero.mp absent)
      · rw [List.count_cons_of_ne here] at once
        obtain ⟨there, unique⟩ := ih once
        rw [List.idxOf_cons_ne rest here]
        refine ⟨by simpa using there, ?_⟩
        intro j found
        cases j with
        | zero =>
            rw [List.getElem?_cons_zero, Option.some.injEq] at found
            exact absurd found here
        | succ j =>
            rw [List.getElem?_cons_succ] at found
            rw [unique j found]

/-! ## What the loop has still to serve -/

/-- `x` was served and is not ahead, or is ahead in exactly one cell. -/
def Pending (x : Chan) (served : Nat) (row : List (Option Chan)) (index len : Nat) : Prop :=
  (served = 1 ∧ ∀ j, index ≤ j → j < len → row[j]? ≠ some (some x)) ∨
  (served = 0 ∧ ∃ p, index ≤ p ∧ p < len ∧ row[p]? = some (some x) ∧
    ∀ j, index ≤ j → j < len → row[j]? = some (some x) → j = p)

/-- While the channel's slice is on the row that is delivered, `x` has not moved
to the right, and no cell behind the slice and ahead of the loop holds it. -/
def Behind (x : Chan) (row : List (Option Chan)) (index len current : Nat) : Prop :=
  ∀ j, row[j]? = some (some x) →
    (j < current → j < len) ∧ (current ≤ j → j < len → j < index)

structure Delivering (channel : String) (x : Chan) (m : SliceMap String (Option Chan))
    (served : Nat) (subs : Slice) (index : Nat) : Prop where
  allocated : subs.array < m.heap.length
  own : ∀ other s, m.slices other = some s → s.array = subs.array → other = channel
  pending : Pending x served (cells m.heap subs.array) index subs.len
  behind : ∀ s, m.slices channel = some s → s.array = subs.array →
    Behind x (cells m.heap subs.array) index subs.len s.len

/-- What holds for the subscriber `x` at each point of `publish`. -/
def TrackAt [DecidableEq Chan] (channel : String) (x : Chan)
    (m : SliceMap String (Option Chan)) (received : List Chan) : Publisher → Prop
  | .entered => received = []
  | .opened => received = []
  | .sent => received = []
  | .delivering subs index => Delivering channel x m (received.count x) subs index
  | .returned none => received.count x = 1
  | .returned (some _) => True

def Track [DecidableEq Chan] (channel : String) (x : Chan) (s : System Chan) : Prop :=
  TrackAt channel x s.pubsub.subscribers s.received s.publisher

/-! ### The loop -/

section Loop
variable {x : Chan} {row : List (Option Chan)} {index len : Nat}

theorem pending_served (inside : index < len) (here : row[index]? = some (some x))
    {served : Nat} (pending : Pending x served row index len) :
    Pending x (served + 1) row (index + 1) len := by
  rcases pending with ⟨_, absent⟩ | ⟨rfl, p, _, _, _, unique⟩
  · exact absurd here (absent index (Nat.le_refl _) inside)
  · obtain rfl := unique index (Nat.le_refl _) inside here
    refine Or.inl ⟨rfl, ?_⟩
    intro j after inside' found
    have same := unique j (by omega) inside' found
    omega

theorem pending_passed {served : Nat} (other : row[index]? ≠ some (some x))
    (pending : Pending x served row index len) : Pending x served row (index + 1) len := by
  rcases pending with ⟨once, absent⟩ | ⟨none, p, ahead, inside, there, unique⟩
  · exact Or.inl ⟨once, fun j after => absent j (by omega)⟩
  · have different : p ≠ index := by
      rintro rfl
      exact other there
    exact Or.inr ⟨none, p, by omega, inside, there, fun j after => unique j (by omega)⟩

theorem behind_passed {current : Nat} (behind : Behind x row index len current) :
    Behind x row (index + 1) len current := by
  intro j found
  obtain ⟨left, stale⟩ := behind j found
  exact ⟨left, fun after inside => Nat.lt_succ_of_lt (stale after inside)⟩

end Loop

/-! ### An entry written behind the slice -/

section Write
variable {x z : Chan} {row : List (Option Chan)} {index len current : Nat}

theorem set_found (different : z ≠ x) {j : Nat}
    (found : (row.set current (some z))[j]? = some (some x)) :
    j ≠ current ∧ row[j]? = some (some x) := by
  by_cases same : j = current
  · subst same
    rw [List.getElem?_set, if_pos rfl] at found
    by_cases inside : j < row.length
    · rw [if_pos inside, Option.some.injEq, Option.some.injEq] at found
      exact absurd found different
    · rw [if_neg inside] at found
      cases found
  · rw [List.getElem?_set_ne (Ne.symm same)] at found
    exact ⟨same, found⟩

theorem pending_set {served : Nat} (different : z ≠ x)
    (pending : Pending x served row index len) (behind : Behind x row index len current) :
    Pending x served (row.set current (some z)) index len := by
  rcases pending with ⟨once, absent⟩ | ⟨none, p, ahead, inside, there, unique⟩
  · exact Or.inl ⟨once, fun j after inside found => absent j after inside (set_found different found).2⟩
  · have before : p < current := by
      by_contra stale
      have passed := (behind p there).2 (by omega) inside
      omega
    refine Or.inr ⟨none, p, ahead, inside, ?_, ?_⟩
    · rw [List.getElem?_set_ne (by omega)]
      exact there
    · exact fun j after inside found => unique j after inside (set_found different found).2

theorem behind_set (different : z ≠ x) (behind : Behind x row index len current) :
    Behind x (row.set current (some z)) index len (current + 1) := by
  intro j found
  obtain ⟨elsewhere, there⟩ := set_found different found
  obtain ⟨left, stale⟩ := behind j there
  exact ⟨fun before => left (by omega), fun after inside => stale (by omega) inside⟩

end Write

/-! ### An entry removed -/

section Shift
variable {x : Chan} {row : List (Option Chan)} {index len current i place : Nat}

theorem shift_found (inside : i < current) (within : current ≤ row.length)
    (unique : ∀ j, j < current → row[j]? = some (some x) → j = place) {j : Nat}
    (found : (shiftLeft row i current)[j]? = some (some x)) :
    (i ≤ j ∧ j + 1 < current ∧ j + 1 = place) ∨
      (¬ (i ≤ j ∧ j + 1 < current) ∧ row[j]? = some (some x)) := by
  rw [shiftLeft_getElem? inside within] at found
  by_cases shifted : i ≤ j ∧ j + 1 < current
  · rw [if_pos shifted] at found
    exact Or.inl ⟨shifted.1, shifted.2, unique (j + 1) shifted.2 found⟩
  · rw [if_neg shifted] at found
    exact Or.inr ⟨shifted, found⟩

variable (inside : i < current) (within : current ≤ row.length) (before : place < current)
  (there : row[place]? = some (some x))
  (unique : ∀ j, j < current → row[j]? = some (some x) → j = place) (other : i ≠ place)
  (steady : ¬ (i < place ∧ index ≤ place ∧ (place = index ∨ place + 1 = current)))
  (behind : Behind x row index len current)
include inside within before there unique other steady behind

/-- Unless `x` is displaced, it is ahead of the loop in as many cells as
before: in its old one, or in the one to the left. -/
theorem pending_shift {served : Nat} (pending : Pending x served row index len) :
    Pending x served (shiftLeft row i current) index len := by
  have left : place < len := (behind place there).1 before
  rcases pending with ⟨once, absent⟩ | ⟨none, p, ahead, short, isThere, only⟩
  · have passed : place < index := by
      by_contra ahead
      exact absent place (by omega) left there
    refine Or.inl ⟨once, ?_⟩
    intro j after short found
    rcases shift_found inside within unique found with ⟨_, _, moved⟩ | ⟨_, still⟩
    · omega
    · exact absent j after short still
  · have same : p = place := by
      by_contra different
      rcases Nat.lt_or_ge p current with early | late
      · exact different (unique p early isThere)
      · have passed := (behind p isThere).2 late short
        omega
    subst same
    rcases Nat.lt_or_ge p i with after | notAfter
    · -- the removed entry stood behind `x`
      refine Or.inr ⟨none, p, ahead, short, ?_, ?_⟩
      · rw [shiftLeft_getElem? inside within, if_neg (by omega)]
        exact there
      · intro j after' short' found
        rcases shift_found inside within unique found with ⟨_, _, moved⟩ | ⟨_, still⟩
        · omega
        · exact only j after' short' still
    · -- it stood in front, and `x` is neither the next nor the last
      refine Or.inr ⟨none, p - 1, by omega, by omega, ?_, ?_⟩
      · rw [shiftLeft_getElem? inside within, if_pos (by omega), show p - 1 + 1 = p by omega]
        exact there
      · intro j after' short' found
        rcases shift_found inside within unique found with ⟨_, _, moved⟩ | ⟨unmoved, still⟩
        · omega
        · have same := only j after' short' still
          omega

theorem behind_shift : Behind x (shiftLeft row i current) index len (current - 1) := by
  have left : place < len := (behind place there).1 before
  intro j found
  rcases shift_found inside within unique found with ⟨_, _, moved⟩ | ⟨unmoved, still⟩
  · exact ⟨fun _ => by omega, fun late => by omega⟩
  · refine ⟨fun early => (behind j still).1 (by omega), ?_⟩
    intro late short
    rcases Nat.lt_or_ge j current with last | stale
    · have same := unique j last still
      omega
    · exact (behind j still).2 stale short

end Shift

/-! ### The subscriber lists while a delivery is under way -/

section Lists
variable {channel : String} {x : Chan} {m m' : SliceMap String (Option Chan)} {served : Nat}
  {subs : Slice} {index : Nat}

theorem Delivering.of_same (d : Delivering channel x m served subs index)
    (grows : m.heap.length ≤ m'.heap.length)
    (own : ∀ other s, m'.slices other = some s → s.array = subs.array → other = channel)
    (row : cells m'.heap subs.array = cells m.heap subs.array)
    (slice : m'.slices channel = m.slices channel) : Delivering channel x m' served subs index := by
  refine ⟨Nat.lt_of_lt_of_le d.allocated grows, own, ?_, ?_⟩
  · rw [row]
    exact d.pending
  · rw [row, slice]
    exact d.behind

theorem Delivering.elsewhere (d : Delivering channel x m served subs index) {name : String}
    (different : name ≠ channel) (s : Slice) (at_name : m.slices name = some s) :
    subs.array ≠ s.array :=
  fun same => different (d.own name s at_name same.symm)

theorem Delivering.push_other (d : Delivering channel x m served subs index)
    (growth : Nat → Nat) {name : String} (different : name ≠ channel) (ch : Option Chan) :
    Delivering channel x (m.push growth name ch) served subs index := by
  refine d.of_same (m.push_length_le growth ch) ?_
    (m.push_cells_of_ne growth ch d.allocated (d.elsewhere different))
    (m.push_slices_of_ne growth ch (Ne.symm different))
  intro other s at_other same
  by_cases isName : other = name
  · subst isName
    obtain ⟨s', at_name, fresh | ⟨s₀, at_name₀, rfl⟩⟩ := m.push_slices_self growth ch
    · rw [at_name, Option.some.injEq] at at_other
      subst at_other
      have allocated := d.allocated
      omega
    · rw [at_name, Option.some.injEq] at at_other
      subst at_other
      exact absurd same.symm (d.elsewhere different s₀ at_name₀)
  · rw [m.push_slices_of_ne growth ch isName] at at_other
    exact d.own other s at_other same

theorem Delivering.push_self (d : Delivering channel x m served subs index)
    (growth : Nat → Nat) {z : Chan} (different : z ≠ x) :
    Delivering channel x (m.push growth channel (some z)) served subs index := by
  refine ⟨Nat.lt_of_lt_of_le d.allocated (m.push_length_le growth _), ?_, ?_, ?_⟩
  · intro other s at_other same
    by_cases isChannel : other = channel
    · exact isChannel
    · rw [m.push_slices_of_ne growth _ isChannel] at at_other
      exact d.own other s at_other same
  · by_cases shared : ∃ s, m.slices channel = some s ∧ s.array = subs.array
    · obtain ⟨s, at_channel, same⟩ := shared
      rw [← same, m.push_cells_self growth _ at_channel, same]
      exact pending_set different d.pending (d.behind s at_channel same)
    · rw [m.push_cells_of_ne growth _ d.allocated
        fun s at_channel same => shared ⟨s, at_channel, same.symm⟩]
      exact d.pending
  · intro s' at_channel' same'
    obtain ⟨s'', at_channel'', fresh | ⟨s, at_channel, rfl⟩⟩ := m.push_slices_self growth (some z)
    · rw [at_channel'', Option.some.injEq] at at_channel'
      subst at_channel'
      have allocated := d.allocated
      omega
    · rw [at_channel'', Option.some.injEq] at at_channel'
      subst at_channel'
      have same : s.array = subs.array := same'
      rw [← same, m.push_cells_self growth _ at_channel, same]
      exact behind_set different (d.behind s at_channel same)

theorem Delivering.erase_other (d : Delivering channel x m served subs index) {name : String}
    (different : name ≠ channel) {s : Slice} {i : Nat} (at_name : m.slices name = some s)
    (inside : i < s.len) : Delivering channel x (m.eraseAt name i) served subs index := by
  obtain ⟨heap, slices⟩ := m.eraseAt_inside at_name inside
  refine d.of_same (by rw [heap]; simp [removeAt]) ?_ ?_ ?_
  · intro other s' at_other same
    rw [slices] at at_other
    by_cases isName : other = name
    · subst isName
      rw [Function.update_self, Option.some.injEq] at at_other
      subst at_other
      exact absurd same.symm (d.elsewhere different s at_name)
    · rw [Function.update_of_ne isName] at at_other
      exact d.own other s' at_other same
  · rw [heap]
    exact removeAt_cells_of_ne (d.elsewhere different s at_name)
  · rw [slices]
    exact Function.update_of_ne (Ne.symm different) _ _

theorem Delivering.passes {served' : Nat} (d : Delivering channel x m served subs index)
    (pending : Pending x served' (cells m.heap subs.array) (index + 1) subs.len) :
    Delivering channel x m served' subs (index + 1) :=
  ⟨d.allocated, d.own, pending, fun s at_channel same => behind_passed (d.behind s at_channel same)⟩

variable [DecidableEq Chan]

theorem place_of_once {s : Slice} (valid : s.Valid m.heap)
    (once : (contents m.heap s).count (some x) = 1) :
    (contents m.heap s).idxOf (some x) < s.len ∧
    (cells m.heap s.array)[(contents m.heap s).idxOf (some x)]? = some (some x) ∧
    ∀ j, j < s.len → (cells m.heap s.array)[j]? = some (some x) →
      j = (contents m.heap s).idxOf (some x) := by
  obtain ⟨there, unique⟩ := idxOf_of_count_one once
  have before : (contents m.heap s).idxOf (some x) < s.len := by
    obtain ⟨bound, _⟩ := List.getElem?_eq_some_iff.mp there
    rw [contents_length valid] at bound
    exact bound
  refine ⟨before, (contents_getElem? before).symm.trans there, ?_⟩
  intro j early found
  exact unique j ((contents_getElem? early).trans found)

theorem Delivering.erase_self (d : Delivering channel x m served subs index) {s : Slice} {i : Nat}
    (at_channel : m.slices channel = some s) (inside : i < s.len)
    (once : (contents m.heap s).count (some x) = 1)
    (other : i ≠ (contents m.heap s).idxOf (some x))
    (steady : s.array = subs.array → ¬ (i < (contents m.heap s).idxOf (some x) ∧
      index ≤ (contents m.heap s).idxOf (some x) ∧
      ((contents m.heap s).idxOf (some x) = index ∨
        (contents m.heap s).idxOf (some x) + 1 = s.len))) :
    Delivering channel x (m.eraseAt channel i) served subs index := by
  obtain ⟨heap, slices⟩ := m.eraseAt_inside at_channel inside
  have valid := m.valid channel s at_channel
  obtain ⟨before, there, unique⟩ := place_of_once valid once
  have own : ∀ other' s', (m.eraseAt channel i).slices other' = some s' →
      s'.array = subs.array → other' = channel := by
    intro other' s' at_other same
    by_cases isChannel : other' = channel
    · exact isChannel
    · rw [slices, Function.update_of_ne isChannel] at at_other
      exact d.own other' s' at_other same
  have grown : subs.array < (m.eraseAt channel i).heap.length := by
    rw [heap]
    simpa [removeAt] using d.allocated
  by_cases same : s.array = subs.array
  · rw [same] at there unique
    have within : s.len ≤ (cells m.heap subs.array).length := by
      rw [← same]
      exact valid.within
    have row : cells (m.eraseAt channel i).heap subs.array =
        shiftLeft (cells m.heap subs.array) i s.len := by
      rw [heap, ← same]
      exact removeAt_cells_self valid
    have behind := d.behind s at_channel same
    refine ⟨grown, own, ?_, ?_⟩
    · rw [row]
      exact pending_shift inside within before there unique other (steady same) behind d.pending
    · intro s' at_channel' _
      rw [slices, Function.update_self, Option.some.injEq] at at_channel'
      subst at_channel'
      rw [row]
      exact behind_shift inside within before there unique other (steady same) behind
  · -- the list has moved to another array since the header was read
    have row : cells (m.eraseAt channel i).heap subs.array = cells m.heap subs.array := by
      rw [heap]
      exact removeAt_cells_of_ne (Ne.symm same)
    refine ⟨grown, own, ?_, ?_⟩
    · rw [row]
      exact d.pending
    · intro s' at_channel' same'
      rw [slices, Function.update_self, Option.some.injEq] at at_channel'
      subst at_channel'
      exact absurd same' same

theorem delivering_start {s : Slice} (at_channel : m.slices channel = some s)
    (once : (contents m.heap s).count (some x) = 1) : Delivering channel x m 0 s 0 := by
  have valid := m.valid channel s at_channel
  obtain ⟨before, there, unique⟩ := place_of_once valid once
  refine ⟨valid.allocated, ?_, ?_, ?_⟩
  · intro other s' at_other same
    exact m.apart other channel s' s at_other at_channel same
  · exact Or.inr ⟨rfl, _, Nat.zero_le _, before, there, fun j _ early => unique j early⟩
  · intro s' at_channel' _ j _
    cases Option.some.inj (at_channel'.symm.trans at_channel)
    exact ⟨id, fun late early => absurd early (Nat.not_lt.mpr late)⟩

end Lists

/-! ## Every step -/

section Step
variable [DecidableEq Chan] {channel : String} {x : Chan} {s : System Chan}

theorem list_of_once {m : SliceMap String (Option Chan)}
    (once : (m.list channel).count (some x) = 1) :
    ∃ slice, m.slices channel = some slice ∧ (contents m.heap slice).count (some x) = 1 := by
  cases at_channel : m.slices channel with
  | none => simp [SliceMap.list, at_channel] at once
  | some slice =>
      rw [SliceMap.list_of_some at_channel] at once
      exact ⟨slice, rfl, once⟩

theorem trackAt_lists {m m' : SliceMap String (Option Chan)} {received : List Chan}
    {publisher : Publisher} (track : TrackAt channel x m received publisher)
    (kept : ∀ subs index, publisher = .delivering subs index →
      Delivering channel x m (received.count x) subs index →
      Delivering channel x m' (received.count x) subs index) :
    TrackAt channel x m' received publisher := by
  cases publisher with
  | entered => exact track
  | opened => exact track
  | sent => exact track
  | delivering subs index => exact kept subs index rfl track
  | returned err =>
      cases err with
      | none => exact track
      | some text => trivial

theorem track_subscribe (growth : Nat → Nat) (name : String) (ch : Chan)
    (track : Track channel x s) (now : Attending channel x s)
    (next : Attending channel x (step growth channel s (.subscribe name ch))) :
    Track channel x (step growth channel s (.subscribe name ch)) := by
  apply trackAt_lists track
  intro subs index _ d
  by_cases same : name = channel
  · subst same
    refine d.push_self growth ?_
    rintro rfl
    -- the list would hold the subscriber twice
    have twice : ((s.pubsub.subscribers.push growth name (some ch)).list name).count (some ch) = 1 :=
      next.once
    rw [SliceMap.push_list_self, List.count_append, now.once] at twice
    simp at twice
  · exact d.push_other growth same (some ch)

theorem track_unsubscribe (growth : Nat → Nat) (name : String) (ch : Chan)
    (track : Track channel x s) (now : Attending channel x s)
    (next : Attending channel x (step growth channel s (.unsubscribe name ch)))
    (steady : displaces channel x s (.unsubscribe name ch) = false) :
    Track channel x (step growth channel s (.unsubscribe name ch)) := by
  by_cases member : some ch ∈ s.pubsub.subscribers.list name
  · have is : unsubscribe s.pubsub name ch = { s.pubsub with
        subscribers := s.pubsub.subscribers.eraseAt name
          ((s.pubsub.subscribers.list name).idxOf (some ch)) } := if_pos member
    have stepIs : step growth channel s (.unsubscribe name ch) = { s with
        pubsub := unsubscribe s.pubsub name ch } := rfl
    rw [stepIs, is] at next ⊢
    obtain ⟨slice, at_name, inside⟩ := SliceMap.slices_of_mem member
    apply trackAt_lists track
    intro subs index delivering d
    by_cases same : name = channel
    · subst same
      have once := now.once
      have different : ch ≠ x := by
        rintro rfl
        -- the subscriber would be gone
        have still : ((s.pubsub.subscribers.eraseAt name
            ((s.pubsub.subscribers.list name).idxOf (some ch))).list name).count (some ch) = 1 :=
          next.once
        rw [SliceMap.eraseAt_list_self _ at_name inside, List.eraseIdx_idxOf_eq_erase,
          List.count_erase_self, once] at still
        cases still
      rw [SliceMap.list_of_some at_name] at member inside once ⊢
      refine d.erase_self at_name inside once ?_ ?_
      · intro equal
        exact different (Option.some.inj ((List.idxOf_inj member).mp equal))
      · intro shared bad
        simp only [displaces, delivering, at_name, decide_eq_false_iff_not] at steady
        exact steady ⟨trivial, shared, bad⟩
    · exact d.erase_other same at_name inside
  · have is : unsubscribe s.pubsub name ch = s.pubsub := if_neg member
    have stepIs : step growth channel s (.unsubscribe name ch) = { s with
        pubsub := unsubscribe s.pubsub name ch } := rfl
    rw [stepIs, is]
    exact track

theorem track_deliver (branch : Branch) {subs : Slice} {index : Nat} (inside : index < subs.len)
    (track : Track channel x s) (now : Attending channel x s)
    (d : Delivering channel x s.pubsub.subscribers (s.received.count x) subs index) :
    Track channel x (deliver s subs index branch) := by
  rcases deliver_cases s subs index branch with
    is | ⟨err, is⟩ | ⟨ch, cell, is⟩ | ⟨nobody, is⟩
  · rw [is]
    exact track
  · rw [is]
    trivial
  · rw [is]
    have here := Option.join_eq_some_iff.mp cell
    by_cases isX : ch = x
    · subst isX
      refine d.passes ?_
      rw [List.count_append, List.count_singleton_self]
      exact pending_served inside here d.pending
    · refine d.passes ?_
      rw [List.count_append, List.count_singleton, beq_eq_false_iff_ne.mpr isX]
      refine pending_passed ?_ d.pending
      intro hereX
      rw [here, Option.some.injEq, Option.some.injEq] at hereX
      exact isX hereX
  · rw [is]
    refine d.passes (pending_passed ?_ d.pending)
    intro here
    have cell : currentCell s subs index = some x := Option.join_eq_some_iff.mpr here
    rw [cell, blocked, now.room] at nobody
    cases nobody

theorem track_step (growth : Nat → Nat) (event : Event Chan) (track : Track channel x s)
    (now : Attending channel x s) (next : Attending channel x (step growth channel s event))
    (steady : displaces channel x s event = false) :
    Track channel x (step growth channel s event) := by
  cases event with
  | subscribe name ch => exact track_subscribe growth name ch track now next
  | unsubscribe name ch => exact track_unsubscribe growth name ch track now next steady
  | close => exact track
  | buffers full => exact track
  | cancel err => exact track
  | checkClosed =>
      by_cases entered : s.publisher = .entered
      · rw [Track, entered] at track
        by_cases closed : s.pubsub.closed
        · simp only [step, entered, closed, if_true]
          trivial
        · simp only [step, entered, closed]
          exact track
      · rw [step_checkClosed_other growth channel entered]
        exact track
  | send result =>
      by_cases opened : s.publisher = .opened
      · rw [Track, opened] at track
        cases failed : result.error channel with
        | some err =>
            simp only [step, opened, failed]
            trivial
        | none =>
            simp only [step, opened, failed]
            exact track
      · rw [step_send_other growth channel result opened]
        exact track
  | readSubscribers =>
      by_cases sent : s.publisher = .sent
      · rw [Track, sent] at track
        have nothing : s.received = [] := track
        obtain ⟨slice, at_channel, once⟩ := list_of_once now.once
        simp only [step, sent, at_channel, Option.getD_some]
        show Delivering channel x s.pubsub.subscribers (s.received.count x) slice 0
        rw [nothing]
        exact delivering_start at_channel once
      · rw [step_readSubscribers_other growth channel sent]
        exact track
  | deliver branch =>
      by_cases delivering : ∃ subs index, s.publisher = .delivering subs index
      · obtain ⟨subs, index, delivering⟩ := delivering
        have d := track
        rw [Track, delivering] at d
        by_cases inside : index < subs.len
        · simp only [step, delivering, inside, if_true]
          exact track_deliver branch inside track now d
        · simp only [step, delivering, inside, if_false]
          exact track
      · rw [step_deliver_other growth channel delivering]
        exact track
  | leaveLoop =>
      by_cases delivering : ∃ subs index, s.publisher = .delivering subs index
      · obtain ⟨subs, index, delivering⟩ := delivering
        have d : Delivering channel x s.pubsub.subscribers (s.received.count x) subs index := by
          rw [Track, delivering] at track
          exact track
        by_cases inside : index < subs.len
        · simp only [step, delivering, inside, if_true]
          exact track
        · -- nobody is ahead any more
          simp only [step, delivering, inside, if_false]
          show s.received.count x = 1
          rcases d.pending with ⟨once, _⟩ | ⟨_, p, ahead, short, _⟩
          · exact once
          · omega
      · rw [step_leaveLoop_other growth channel delivering]
        exact track

end Step

/-! ## Every interleaving -/

/-- For every interleaving of one `publish` that returns without error with
calls of `Subscribe` and `Unsubscribe`: a subscriber that is registered exactly
once and has room throughout, and is displaced by no `Unsubscribe`, has got the
message exactly once. -/
theorem delivered_exactly_once [DecidableEq Chan] (growth : Nat → Nat) (channel : String)
    (x : Chan) (start : System Chan) (events : List (Event Chan))
    (entered : start.publisher = .entered) (fresh : start.received = [])
    (attending : ∀ s ∈ states (step growth channel) start events, Attending channel x s)
    (steady : ∀ entry ∈ history (step growth channel) start events,
      displaces channel x entry.1 entry.2 = false)
    (returned : (after (step growth channel) start events).publisher = .returned none) :
    (after (step growth channel) start events).received.count x = 1 := by
  have begun : Track channel x start := by
    rw [Track, entered]
    exact fresh
  have kept : ∀ s event, Track channel x s → Attending channel x s →
      Attending channel x (step growth channel s event) → displaces channel x s event = false →
      Track channel x (step growth channel s event) :=
    fun s event track now next steady => track_step growth event track now next steady
  have ended := after_invariant_given kept begun attending steady
  rw [Track, returned] at ended
  exact ended

/-! ### The loop does not block -/

theorem deliver_passes {s : System Chan} (subs : Slice) (index : Nat) (calm : s.ctxErr = none) :
    ∃ branch, (deliver s subs index branch).publisher = .delivering subs (index + 1) ∧
      (deliver s subs index branch).ctxErr = none := by
  cases free : blocked s (currentCell s subs index) with
  | true => exact ⟨.drop, by simp [deliver, free, calm]⟩
  | false =>
      cases cell : currentCell s subs index with
      | none =>
          rw [cell] at free
          cases free
      | some ch =>
          rw [cell] at free
          have room : s.full ch = false := free
          exact ⟨.put, by simp [deliver, cell, room, calm]⟩

theorem delivery_returns [DecidableEq Chan] (growth : Nat → Nat) (channel : String)
    (remaining : Nat) :
    ∀ (s : System Chan) (subs : Slice) (index : Nat), s.publisher = .delivering subs index →
      s.ctxErr = none → subs.len - index = remaining →
      ∃ events, (after (step growth channel) s events).publisher = .returned none := by
  induction remaining with
  | zero =>
      intro s subs index delivering _ none
      refine ⟨[.leaveLoop], ?_⟩
      have finished : ¬ index < subs.len := by omega
      simp only [after_cons, after_nil, step, delivering, finished, if_false]
  | succ remaining ih =>
      intro s subs index delivering calm left
      have inside : index < subs.len := by omega
      obtain ⟨branch, passes, calm'⟩ := deliver_passes subs index calm
      have stepIs : step growth channel s (.deliver branch) = deliver s subs index branch := by
        simp only [step, delivering, inside, if_true]
      rw [← stepIs] at passes calm'
      obtain ⟨events, ended⟩ := ih _ subs (index + 1) passes calm' (by omega)
      exact ⟨.deliver branch :: events, ended⟩

/-! ### Three subscribers -/

def doubling (n : Nat) : Nat := max 1 (2 * n)

/-- Subscribers 0, 1 and 2 in an array with room for a fourth. -/
def three : System Nat where
  pubsub := ⟨false, ((SliceMap.empty.push doubling "tasks:completed" (some 0)).push doubling
    "tasks:completed" (some 1)).push doubling "tasks:completed" (some 2)⟩
  full := fun _ => false
  ctxErr := none
  publisher := .entered
  received := []

def interrupted (leaving : Nat) : List (Event Nat) :=
  [.checkClosed, .send .ok, .readSubscribers, .deliver .put,
    .unsubscribe "tasks:completed" leaving, .deliver .put, .deliver .put, .leaveLoop]

instance (channel : String) (x : Nat) (s : System Nat) : Decidable (Attending channel x s) :=
  decidable_of_iff ((s.pubsub.subscribers.list channel).count (some x) = 1 ∧ s.full x = false)
    ⟨fun both => ⟨both.1, both.2⟩, fun attending => ⟨attending.once, attending.room⟩⟩

/-- The last subscriber leaves: the one in the middle is served once. -/
theorem middle_served_once :
    (∀ s ∈ states (step doubling "tasks:completed") three (interrupted 2),
      Attending "tasks:completed" 1 s) ∧
    (after (step doubling "tasks:completed") three (interrupted 2)).received.count 1 = 1 := by
  have attending : ∀ s ∈ states (step doubling "tasks:completed") three (interrupted 2),
      Attending "tasks:completed" 1 s := by decide
  exact ⟨attending, delivered_exactly_once doubling "tasks:completed" 1 three (interrupted 2) rfl
    rfl attending (by decide) (by decide)⟩

/-- The first subscriber leaves once it has been served: the next one is passed
over and the last one is served twice, though both stay registered. -/
theorem leaving_subscriber_displaces_others :
    three.publisher = .entered ∧ three.received = [] ∧
    (∀ s ∈ states (step doubling "tasks:completed") three (interrupted 0),
      Attending "tasks:completed" 1 s ∧ Attending "tasks:completed" 2 s) ∧
    (after (step doubling "tasks:completed") three (interrupted 0)).publisher = .returned none ∧
    (after (step doubling "tasks:completed") three (interrupted 0)).received = [0, 2, 2] := by
  refine ⟨rfl, rfl, by decide, by decide, by decide⟩

end CloudOS.PubSub.LocalDelivery
