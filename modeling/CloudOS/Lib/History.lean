import Mathlib.Data.List.Induction

/-!
# Runs of a deterministic machine

A machine takes one operation after another.  `history` pairs each operation
with the state it was applied to, so that a property of a whole run is a
property of the members of a list.  `forall_history_iff` is the rule for the
properties that hold exactly as long as every step meets some condition on the
state before it.
-/

set_option autoImplicit false

namespace CloudOS.Lib.History

variable {S A : Type} (step : S → A → S)

def after (s : S) (ops : List A) : S := ops.foldl step s

def history (s : S) : List A → List (S × A)
  | [] => []
  | op :: rest => (s, op) :: history (step s op) rest

def states (s : S) : List A → List S
  | [] => [s]
  | op :: rest => s :: states (step s op) rest

@[simp] theorem after_nil (s : S) : after step s [] = s := rfl

@[simp] theorem after_cons (s : S) (op : A) (rest : List A) :
    after step s (op :: rest) = after step (step s op) rest := rfl

theorem after_append (s : S) (first second : List A) :
    after step s (first ++ second) = after step (after step s first) second := by
  simp [after]

theorem after_snoc (s : S) (ops : List A) (op : A) :
    after step s (ops ++ [op]) = step (after step s ops) op := by
  simp [after]

theorem history_snoc (s : S) (ops : List A) (op : A) :
    history step s (ops ++ [op]) = history step s ops ++ [(after step s ops, op)] := by
  induction ops generalizing s with
  | nil => rfl
  | cons first rest ih => simp [history, ih]

theorem history_append (s : S) (first second : List A) :
    history step s (first ++ second) =
      history step s first ++ history step (after step s first) second := by
  induction first generalizing s with
  | nil => rfl
  | cons op rest ih => simp [history, ih]

variable {step}

theorem after_invariant {inv : S → Prop} (kept : ∀ s op, inv s → inv (step s op))
    {s : S} (holds : inv s) (ops : List A) : inv (after step s ops) := by
  induction ops generalizing s with
  | nil => exact holds
  | cons op rest ih => exact ih (kept s op holds)

theorem mem_states_self (s : S) (ops : List A) : s ∈ states step s ops := by
  cases ops with
  | nil => exact List.mem_cons_self
  | cons op rest => exact List.mem_cons_self

/-- An invariant of the steps that are allowed, in the states about which
`given` holds. -/
theorem after_invariant_given {inv given : S → Prop} {allowed : S × A → Prop}
    (kept : ∀ s op, inv s → given s → given (step s op) → allowed (s, op) → inv (step s op))
    {s : S} (holds : inv s) {ops : List A} (givens : ∀ state ∈ states step s ops, given state)
    (alloweds : ∀ entry ∈ history step s ops, allowed entry) : inv (after step s ops) := by
  induction ops generalizing s with
  | nil => exact holds
  | cons op rest ih =>
      simp only [states, history, List.forall_mem_cons] at givens alloweds
      have next := givens.2 (step s op) (mem_states_self (step s op) rest)
      exact ih (kept s op holds givens.1 next alloweds.1) givens.2 alloweds.2

theorem after_invariant_allowed {inv : S → Prop} {allowed : S × A → Prop}
    (kept : ∀ s op, inv s → allowed (s, op) → inv (step s op))
    {s : S} (holds : inv s) {ops : List A}
    (alloweds : ∀ entry ∈ history step s ops, allowed entry) : inv (after step s ops) :=
  @after_invariant_given S A step inv (fun _ => True) allowed
    (fun s op holds _ _ isAllowed => kept s op holds isAllowed) s holds ops
    (fun _ _ => trivial) alloweds

theorem after_related {S' : Type} {step' : S' → A → S'} {related : S → S' → Prop}
    {ops : List A} (kept : ∀ op ∈ ops, ∀ s s', related s s' → related (step s op) (step' s' op))
    {s : S} {s' : S'} (holds : related s s') :
    related (after step s ops) (after step' s' ops) := by
  induction ops generalizing s s' with
  | nil => exact holds
  | cons op rest ih =>
      exact ih (fun other member => kept other (List.mem_cons_of_mem op member))
        (kept op List.mem_cons_self s s' holds)

theorem history_invariant_allowed {inv : S → Prop} {allowed : S × A → Prop}
    (kept : ∀ s op, inv s → allowed (s, op) → inv (step s op)) {s : S} (holds : inv s)
    {ops : List A} (alloweds : ∀ entry ∈ history step s ops, allowed entry) :
    ∀ entry ∈ history step s ops, inv entry.1 := by
  induction ops generalizing s with
  | nil => simp [history]
  | cons op rest ih =>
      simp only [history, List.forall_mem_cons] at alloweds ⊢
      exact ⟨holds, ih (kept s op holds alloweds.1) alloweds.2⟩

theorem history_invariant {inv : S → Prop} (kept : ∀ s op, inv s → inv (step s op))
    {s : S} (holds : inv s) (ops : List A) : ∀ entry ∈ history step s ops, inv entry.1 :=
  @history_invariant_allowed S A step inv (fun _ => True) (fun s op holds _ => kept s op holds)
    s holds ops fun _ _ => trivial

/-- While `inv` holds, a step about which `given` holds is good exactly under
its condition, and good steps keep `inv`.  Then a run is good throughout
exactly when every step of it meets the condition in the state it finds. -/
theorem forall_history_iff {inv : S → Prop} {given good condition : S × A → Prop}
    (exact_step : ∀ s op, inv s → given (s, op) → (good (s, op) ↔ condition (s, op)))
    (kept : ∀ s op, inv s → given (s, op) → good (s, op) → inv (step s op))
    {s : S} (holds : inv s) (ops : List A)
    (givens : ∀ entry ∈ history step s ops, given entry) :
    (∀ entry ∈ history step s ops, good entry) ↔
      ∀ entry ∈ history step s ops, condition entry := by
  induction ops generalizing s with
  | nil => simp [history]
  | cons op rest ih =>
      simp only [history, List.forall_mem_cons] at givens ⊢
      obtain ⟨here, later⟩ := givens
      constructor
      · rintro ⟨first, others⟩
        have holds' := kept s op holds here first
        exact ⟨(exact_step s op holds here).mp first, (ih holds' later).mp others⟩
      · rintro ⟨first, others⟩
        have isGood := (exact_step s op holds here).mpr first
        have holds' := kept s op holds here isGood
        exact ⟨isGood, (ih holds' later).mpr others⟩

theorem forall_last_snoc {condition : List A → A → Prop} (ops : List A) (op : A) :
    (∀ earlier last, earlier ++ [last] <+: ops ++ [op] → condition earlier last) ↔
      (∀ earlier last, earlier ++ [last] <+: ops → condition earlier last) ∧ condition ops op := by
  constructor
  · intro all
    constructor
    · intro earlier last isPrefix
      exact all earlier last (isPrefix.trans (List.prefix_append ops [op]))
    · exact all ops op (List.prefix_refl _)
  · rintro ⟨before, here⟩ earlier last isPrefix
    rcases List.prefix_concat_iff.mp isPrefix with same | within
    · obtain ⟨rfl, lasts⟩ := List.append_inj' same rfl
      obtain rfl : last = op := by simpa using lasts
      exact here
    · exact before earlier last within

/-- The same rule for properties of the whole run so far: `given` is about the
operations, and one more operation keeps the property exactly under the
condition. -/
theorem iff_forall_last {given good : List A → Prop} {condition : List A → A → Prop}
    (exact_step : ∀ ops op, given (ops ++ [op]) →
      (good (ops ++ [op]) ↔ good ops ∧ condition ops op))
    (closed : ∀ ops op, given (ops ++ [op]) → given ops) {ops : List A} (givens : given ops) :
    good ops ↔ good [] ∧ ∀ earlier last, earlier ++ [last] <+: ops → condition earlier last := by
  induction ops using List.reverseRecOn with
  | nil => simp
  | append_singleton ops op ih =>
      rw [exact_step ops op givens, ih (closed ops op givens), forall_last_snoc, and_assoc]

/-- And for a property that is to hold all along the run. -/
theorem forall_prefix_iff {good : List A → Prop} {condition : List A → A → Prop}
    (start : good [])
    (exact_step : ∀ ops op, good ops → (good (ops ++ [op]) ↔ condition ops op)) (ops : List A) :
    (∀ earlier, earlier <+: ops → good earlier) ↔
      ∀ earlier last, earlier ++ [last] <+: ops → condition earlier last := by
  have along : ∀ ops op, True →
      ((∀ earlier, earlier <+: ops ++ [op] → good earlier) ↔
        (∀ earlier, earlier <+: ops → good earlier) ∧ condition ops op) := by
    intro ops op _
    simp only [List.prefix_concat_iff, or_imp, forall_and, forall_eq]
    rw [and_comm]
    apply and_congr_right
    intro before
    exact exact_step ops op (before ops (List.prefix_refl ops))
  have whole := @iff_forall_last A (fun _ => True)
    (fun ops => ∀ earlier, earlier <+: ops → good earlier) condition along
    (fun _ _ _ => trivial) ops trivial
  simpa [start] using whole

/-- And for a property of the run so far that is to hold all along the run: while
`inv` holds, an operation about which `given` holds keeps the property exactly under
its condition, and under the condition it keeps `inv`. -/
theorem forall_prefix_iff_history {inv good : List A → Prop} {given condition : S × A → Prop}
    {s : S} (startInv : inv []) (start : good [])
    (exact_step : ∀ ops op, inv ops → given (after step s ops, op) →
      (good (ops ++ [op]) ↔ condition (after step s ops, op)))
    (kept : ∀ ops op, inv ops → given (after step s ops, op) →
      condition (after step s ops, op) → inv (ops ++ [op]))
    (ops : List A) (givens : ∀ entry ∈ history step s ops, given entry) :
    (∀ earlier, earlier <+: ops → good earlier) ↔
      ∀ entry ∈ history step s ops, condition entry := by
  have along : ((∀ earlier, earlier <+: ops → good earlier) ↔
        ∀ entry ∈ history step s ops, condition entry) ∧
      ((∀ entry ∈ history step s ops, condition entry) → inv ops) := by
    induction ops using List.reverseRecOn with
    | nil => simp [history, startInv, start]
    | append_singleton ops op ih =>
        rw [history_snoc, List.forall_mem_append, List.forall_mem_singleton] at givens ⊢
        obtain ⟨before, here⟩ := givens
        obtain ⟨same, holds⟩ := ih before
        constructor
        · simp only [List.prefix_concat_iff, or_imp, forall_and, forall_eq]
          rw [and_comm, same]
          apply and_congr_right
          intro conditions
          exact exact_step ops op (holds conditions) here
        · rintro ⟨conditions, condition_here⟩
          exact kept ops op (holds conditions) here condition_here
  exact along.1

theorem forall_history_of_ops {given : A → Prop} {s : S} {ops : List A}
    (all : ∀ op ∈ ops, given op) : ∀ entry ∈ history step s ops, given entry.2 := by
  induction ops generalizing s with
  | nil => simp [history]
  | cons op rest ih =>
      simp only [history, List.forall_mem_cons] at all ⊢
      exact ⟨all.1, ih all.2⟩

/-! ## The operations of one party -/

section Own
variable {O : Type} (output : S → A → Option O) (own : A → Bool)

/-- What a party sees of a run: the outputs of its own operations. -/
def observed (step : S → A → S) (s : S) (ops : List A) : List O :=
  (history step s ops).filterMap fun entry =>
    if own entry.2 then output entry.1 entry.2 else none

variable {output own}

/-- A party sees the same with the operations of the others left out, when in the
states about which `given` holds its own operations see only what `agree` is
about, and those of the others leave it alone. -/
theorem observed_filter_given {agree : S → S → Prop} {given : S × A → Prop}
    (own_step : ∀ s s' op, own op = true → given (s, op) → agree s s' →
      output s op = output s' op ∧ agree (step s op) (step s' op))
    (other_step : ∀ s s' op, own op = false → given (s, op) → agree s s' → agree (step s op) s')
    {s s' : S} (agreed : agree s s') (ops : List A)
    (givens : ∀ entry ∈ history step s ops, given entry) :
    observed output own step s ops = observed output own step s' (ops.filter own) := by
  induction ops generalizing s s' with
  | nil => rfl
  | cons op rest ih =>
      simp only [history, List.forall_mem_cons] at givens
      obtain ⟨here, later⟩ := givens
      cases isOwn : own op with
      | true =>
          obtain ⟨same, agreed'⟩ := own_step s s' op isOwn here agreed
          have rest_same := ih agreed' later
          simp only [observed] at rest_same
          rw [List.filter_cons_of_pos isOwn]
          simp only [observed, history, List.filterMap_cons, isOwn, if_true, same, rest_same]
      | false =>
          have rest_same := ih (other_step s s' op isOwn here agreed) later
          rw [List.filter_cons_of_neg (by simp [isOwn]), ← rest_same]
          simp [observed, history, isOwn]

/-- The same when only the operations of the others have to spare what `agree`
is about. -/
theorem observed_filter {agree : S → S → Prop} {spares : S × A → Prop}
    (own_step : ∀ s s' op, own op = true → agree s s' →
      output s op = output s' op ∧ agree (step s op) (step s' op))
    (other_step : ∀ s s' op, own op = false → spares (s, op) → agree s s' → agree (step s op) s')
    {s s' : S} (agreed : agree s s') (ops : List A)
    (spared : ∀ entry ∈ history step s ops, spares entry) :
    observed output own step s ops = observed output own step s' (ops.filter own) :=
  observed_filter_given (fun s s' op isOwn _ => own_step s s' op isOwn) other_step agreed ops spared

/-- What a party sees is what a system of its own shows it that its operations keep in
step with, and that the operations of the others leave as it is. -/
theorem observed_simulated {S' : Type} {output' : S' → A → Option O} {step' : S' → A → S'}
    {simulates : S → S' → Prop}
    (own_step : ∀ s s' op, own op = true → simulates s s' →
      output s op = output' s' op ∧ simulates (step s op) (step' s' op))
    (other_step : ∀ s s' op, own op = false → simulates s s' → simulates (step s op) s')
    {s : S} {s' : S'} (start : simulates s s') (ops : List A) :
    observed output own step s ops = observed output' own step' s' (ops.filter own) := by
  induction ops generalizing s s' with
  | nil => rfl
  | cons op rest ih =>
      cases isOwn : own op with
      | true =>
          obtain ⟨same, kept⟩ := own_step s s' op isOwn start
          have rest_same := ih kept
          simp only [observed] at rest_same
          rw [List.filter_cons_of_pos isOwn]
          simp only [observed, history, List.filterMap_cons, isOwn, if_true, same, rest_same]
      | false =>
          have rest_same := ih (other_step s s' op isOwn start)
          rw [List.filter_cons_of_neg (by simp [isOwn]), ← rest_same]
          simp [observed, history, isOwn]

end Own

/-! ## Counting since an event -/

/-- How many entries count since the last one that stops the count. -/
def countSince (stops counts : S × A → Bool) (entries : List (S × A)) : Nat :=
  (entries.reverse.takeWhile fun entry => !stops entry).countP counts

variable {stops counts : S × A → Bool}

theorem countSince_stop {entries : List (S × A)} {entry : S × A}
    (stop : stops entry = true) : countSince stops counts (entries ++ [entry]) = 0 := by
  simp [countSince, stop]

theorem countSince_count {entries : List (S × A)} {entry : S × A}
    (go : stops entry = false) (counted : counts entry = true) :
    countSince stops counts (entries ++ [entry]) = countSince stops counts entries + 1 := by
  simp [countSince, go, counted]

theorem countSince_skip {entries : List (S × A)} {entry : S × A}
    (go : stops entry = false) (ignored : counts entry = false) :
    countSince stops counts (entries ++ [entry]) = countSince stops counts entries := by
  simp [countSince, go, ignored]

end CloudOS.Lib.History
