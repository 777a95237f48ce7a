import Mathlib.Logic.Function.Basic
import Mathlib.Logic.Relation

/-!
# Programs of calls on a shared world

A program is a finite tree of calls: it either returns a value or issues one
call and continues with the answer.  The same tree is read in two ways.
`Prog.eval` runs it alone against a deterministic handler; `System.Step` runs
any number of such programs interleaved at call granularity, where a call may
have several outcomes, a thread may crash between two calls, and an
environment moves on its own.

`Prog.Outline` is the rely/guarantee condition of one program: whatever the
rest of the system does inside `rely`, each of its own calls stays inside
`guar`.  `Discipline.run_sound` lifts the outlines of the single programs to
every interleaving.
-/

set_option autoImplicit false

namespace CloudOS.Lib.CallProgram

inductive Prog (Op : Type) (Res : Op → Type) (α : Type) where
  | ret (value : α)
  | call (op : Op) (next : Res op → Prog Op Res α)

variable {Op : Type} {Res : Op → Type} {α β : Type}

def Prog.bind : Prog Op Res α → (α → Prog Op Res β) → Prog Op Res β
  | .ret value, f => f value
  | .call op next, f => .call op fun answer => (next answer).bind f

instance progMonad : Monad (Prog Op Res) where
  pure := .ret
  bind := .bind

def perform (op : Op) : Prog Op Res (Res op) := .call op .ret

/-! ## Running one program alone -/

section Eval
variable {S : Type}

def Prog.eval (handle : (op : Op) → S → Res op × S) : Prog Op Res α → S → α × S
  | .ret value, s => (value, s)
  | .call op next, s => (next (handle op s).1).eval handle (handle op s).2

variable (handle : (op : Op) → S → Res op × S)

@[simp] theorem eval_bind (p : Prog Op Res α) (f : α → Prog Op Res β) (s : S) :
    (p >>= f).eval handle s =
      (f (p.eval handle s).1).eval handle (p.eval handle s).2 := by
  induction p generalizing s with
  | ret value => rfl
  | call op next ih => exact ih (handle op s).1 (handle op s).2

theorem eval_invariant {inv : S → Prop} (kept : ∀ op s, inv s → inv (handle op s).2)
    (p : Prog Op Res α) (s : S) (holds : inv s) : inv (p.eval handle s).2 := by
  induction p generalizing s with
  | ret value => exact holds
  | call op next ih => exact ih (handle op s).1 (handle op s).2 (kept op s holds)

end Eval

section Trace
variable (answers : List Op → (op : Op) → Res op)

/-- Each call is noted, and answered by what has been called before it. -/
def record (op : Op) (issued : List Op) : Res op × List Op := (answers issued op, issued ++ [op])

def Prog.trace (p : Prog Op Res α) (issued : List Op) : List Op :=
  (p.eval (record answers) issued).2

theorem Prog.trace_prefix (p : Prog Op Res α) (issued : List Op) :
    issued <+: p.trace answers issued := by
  refine eval_invariant (record answers) ?_ p issued (List.prefix_refl issued)
  intro op later before
  exact before.trans (List.prefix_append later [op])

end Trace

/-! ## Many programs interleaved -/

section Concurrent
variable {Tid W : Type}

/-- The shared world and what is left to do for each running thread. -/
structure Conf (Tid W Op : Type) (Res : Op → Type) (α : Type) where
  world : W
  running : Tid → Option (Prog Op Res α)

inductive Event (Tid Op : Type) (Res : Op → Type) where
  | started (tid : Tid)
  | called (tid : Tid) (op : Op) (answer : Res op)
  | finished (tid : Tid)
  | crashed (tid : Tid)
  | environment

/-- `outcome tid op w answer w'` lists every way a call of thread `tid` may
end; `program tid` the programs this thread may be started with. -/
structure System (Tid W Op : Type) (Res : Op → Type) (α : Type) where
  outcome : Tid → (op : Op) → W → Res op → W → Prop
  program : Tid → Prog Op Res α → Prop
  environment : W → W → Prop

variable [DecidableEq Tid]

inductive System.Step (sys : System Tid W Op Res α) :
    Conf Tid W Op Res α → Event Tid Op Res → Conf Tid W Op Res α → Prop
  | start (c : Conf Tid W Op Res α) (tid : Tid) (p : Prog Op Res α)
      (idle : c.running tid = none) (allowed : sys.program tid p) :
      sys.Step c (.started tid)
        ⟨c.world, Function.update c.running tid (some p)⟩
  | call (c : Conf Tid W Op Res α) (tid : Tid) (op : Op)
      (next : Res op → Prog Op Res α) (answer : Res op) (world : W)
      (at_call : c.running tid = some (.call op next))
      (out : sys.outcome tid op c.world answer world) :
      sys.Step c (.called tid op answer)
        ⟨world, Function.update c.running tid (some (next answer))⟩
  | finish (c : Conf Tid W Op Res α) (tid : Tid) (value : α)
      (at_ret : c.running tid = some (.ret value)) :
      sys.Step c (.finished tid) ⟨c.world, Function.update c.running tid none⟩
  | crash (c : Conf Tid W Op Res α) (tid : Tid) :
      sys.Step c (.crashed tid) ⟨c.world, Function.update c.running tid none⟩
  | environment (c : Conf Tid W Op Res α) (world : W)
      (moves : sys.environment c.world world) :
      sys.Step c .environment ⟨world, c.running⟩

/-- A run, with the configuration before each of its events. -/
inductive System.Run (sys : System Tid W Op Res α) (start : Conf Tid W Op Res α) :
    List (Conf Tid W Op Res α × Event Tid Op Res) → Conf Tid W Op Res α → Prop
  | nil : sys.Run start [] start
  | snoc {history : List (Conf Tid W Op Res α × Event Tid Op Res)}
      {c c' : Conf Tid W Op Res α} {event : Event Tid Op Res}
      (before : sys.Run start history c) (step : sys.Step c event c') :
      sys.Run start (history ++ [(c, event)]) c'

theorem System.Run.trans {sys : System Tid W Op Res α}
    {start middle final : Conf Tid W Op Res α}
    {first second : List (Conf Tid W Op Res α × Event Tid Op Res)}
    (left : sys.Run start first middle) (right : sys.Run middle second final) :
    sys.Run start (first ++ second) final := by
  induction right with
  | nil => simpa using left
  | snoc before step ih =>
      rw [← List.append_assoc]
      exact .snoc ih step

theorem System.Run.of_environment {sys : System Tid W Op Res α} {environment : W → W → Prop}
    (more : ∀ a b, sys.environment a b → environment a b)
    {start final : Conf Tid W Op Res α}
    {history : List (Conf Tid W Op Res α × Event Tid Op Res)}
    (run : sys.Run start history final) :
    ({ sys with environment := environment } : System Tid W Op Res α).Run start history final := by
  induction run with
  | nil => exact .nil
  | snoc before step ih =>
      refine .snoc ih ?_
      cases step with
      | start tid p idle allowed => exact .start _ tid p idle allowed
      | call tid op next answer world at_call out =>
          exact .call _ tid op next answer world at_call out
      | finish tid value at_ret => exact .finish _ tid value at_ret
      | crash tid => exact .crash _ tid
      | environment world moves => exact .environment _ world (more _ _ moves)

theorem System.Run.split {sys : System Tid W Op Res α} {start final : Conf Tid W Op Res α}
    {history before rest : List (Conf Tid W Op Res α × Event Tid Op Res)}
    {entry : Conf Tid W Op Res α × Event Tid Op Res}
    (run : sys.Run start history final) (cut : history = before ++ entry :: rest) :
    sys.Run start before entry.1 ∧ ∃ next, sys.Step entry.1 entry.2 next := by
  induction run generalizing rest with
  | nil => simp at cut
  | @snoc history c c' event earlier step ih =>
      rcases List.eq_nil_or_concat rest with rfl | ⟨rest', last, rfl⟩
      · obtain ⟨rfl, here⟩ := List.append_inj' cut rfl
        obtain ⟨rfl, _⟩ := List.cons.inj here
        exact ⟨earlier, c', step⟩
      · rw [List.concat_eq_append, ← List.cons_append, ← List.append_assoc] at cut
        exact ih (List.append_inj' cut rfl).1

/-- Along the evaluation of the program every answer of the handler is one of
the outcomes of its call. -/
def Prog.Served (outcome : (op : Op) → W → Res op → W → Prop)
    (handle : (op : Op) → W → Res op × W) : Prog Op Res α → W → Prop
  | .ret _, _ => True
  | .call op next, w => outcome op w (handle op w).1 (handle op w).2 ∧
      (next (handle op w).1).Served outcome handle (handle op w).2

omit [DecidableEq Tid] in
theorem Prog.served_of_faithful {outcome : (op : Op) → W → Res op → W → Prop}
    {handle : (op : Op) → W → Res op × W}
    (faithful : ∀ op w, outcome op w (handle op w).1 (handle op w).2) (p : Prog Op Res α) (w : W) :
    p.Served outcome handle w := by
  induction p generalizing w with
  | ret value => trivial
  | call op next ih => exact ⟨faithful op w, ih _ _⟩

/-- A whole program run alone is one interleaving of the system. -/
theorem System.run_served (sys : System Tid W Op Res α)
    (handle : (op : Op) → W → Res op × W) (tid : Tid)
    (p : Prog Op Res α) (allowed : sys.program tid p)
    (c : Conf Tid W Op Res α) (served : p.Served (sys.outcome tid) handle c.world)
    (idle : c.running tid = none) :
    ∃ history, sys.Run c history ⟨(p.eval handle c.world).2, c.running⟩ := by
  have proceed : ∀ (q : Prog Op Res α) (w : W), q.Served (sys.outcome tid) handle w →
      ∃ history, sys.Run ⟨w, Function.update c.running tid (some q)⟩ history
        ⟨(q.eval handle w).2, c.running⟩ := by
    intro q
    induction q with
    | ret value =>
        intro w _
        have step : sys.Step ⟨w, Function.update c.running tid (some (.ret value))⟩
            (.finished tid)
            ⟨w, Function.update (Function.update c.running tid (some (.ret value))) tid none⟩ :=
          .finish _ tid value (by simp)
        rw [Function.update_idem, ← idle, Function.update_eq_self] at step
        exact ⟨_, System.Run.nil.snoc step⟩
    | call op next ih =>
        rintro w ⟨out, later⟩
        obtain ⟨history, rest⟩ := ih (handle op w).1 (handle op w).2 later
        have step : sys.Step ⟨w, Function.update c.running tid (some (.call op next))⟩
            (.called tid op (handle op w).1)
            ⟨(handle op w).2, Function.update (Function.update c.running tid
              (some (.call op next))) tid (some (next (handle op w).1))⟩ :=
          .call _ tid op next _ _ (by simp) out
        rw [Function.update_idem] at step
        exact ⟨_, (System.Run.nil.snoc step).trans rest⟩
  obtain ⟨history, rest⟩ := proceed p c.world served
  exact ⟨_, (System.Run.nil.snoc (.start c tid p idle allowed)).trans rest⟩

theorem System.run_eval (sys : System Tid W Op Res α)
    (handle : (op : Op) → W → Res op × W) (tid : Tid)
    (faithful : ∀ op w, sys.outcome tid op w (handle op w).1 (handle op w).2)
    (p : Prog Op Res α) (allowed : sys.program tid p)
    (c : Conf Tid W Op Res α) (idle : c.running tid = none) :
    ∃ history, sys.Run c history ⟨(p.eval handle c.world).2, c.running⟩ :=
  sys.run_served handle tid p allowed c (p.served_of_faithful faithful c.world) idle

/-! ## Rely and guarantee -/

/-- Started in `w`, the program keeps `guar` at each of its calls, issued
wherever the others may by then have moved the world within `rely` and `inv`,
and returns only in worlds that satisfy `post`. -/
def Prog.Outline (outcome : (op : Op) → W → Res op → W → Prop) (inv : W → Prop)
    (rely guar : W → W → Prop) : Prog Op Res α → (α → W → Prop) → W → Prop
  | .ret value, post, w => post value w
  | .call op next, post, w => ∀ a, rely w a → inv a →
      ∀ answer b, outcome op a answer b →
        guar a b ∧ (next answer).Outline outcome inv rely guar post b

section Outline
variable {outcome : (op : Op) → W → Res op → W → Prop} {inv : W → Prop}
  {rely guar : W → W → Prop} {post : α → W → Prop}

theorem Prog.Outline.stable (rely_trans : ∀ a b c, rely a b → rely b c → rely a c)
    (post_kept : ∀ value a b, post value a → rely a b → post value b)
    {p : Prog Op Res α} {w w' : W} (outline : p.Outline outcome inv rely guar post w)
    (moved : rely w w') : p.Outline outcome inv rely guar post w' := by
  cases p with
  | ret value => exact post_kept value w w' outline moved
  | call op next =>
      intro a later holds answer b out
      exact outline a (rely_trans w w' a moved later) holds answer b out

/-- The rule for one call: an assertion that the others keep, and what each
outcome establishes from it. -/
theorem Prog.Outline.of_perform {op : Op} {next : Res op → Prog Op Res α} {w : W}
    (assertion : W → Prop) (established : assertion w)
    (kept : ∀ a b, assertion a → rely a b → assertion b)
    (step : ∀ a answer b, assertion a → inv a → outcome op a answer b →
      guar a b ∧ (next answer).Outline outcome inv rely guar post b) :
    (perform op >>= next).Outline outcome inv rely guar post w := by
  intro a moved holds answer b out
  exact step a answer b (kept w a established moved) holds out

theorem Prog.Outline.ite {condition : Prop} [Decidable condition] {p q : Prog Op Res α} {w : W}
    (first : condition → p.Outline outcome inv rely guar post w)
    (second : ¬ condition → q.Outline outcome inv rely guar post w) :
    (if condition then p else q).Outline outcome inv rely guar post w := by
  split
  next holds => exact first holds
  next fails => exact second fails

theorem Prog.Outline.mono {inv' : W → Prop} {guar' : W → W → Prop} {post' : α → W → Prop}
    {p : Prog Op Res α} {w : W} (outline : p.Outline outcome inv rely guar post w)
    (stronger : ∀ a, inv' a → inv a) (weaker : ∀ a b, inv' a → guar a b → guar' a b)
    (implied : ∀ value a, post value a → post' value a) :
    p.Outline outcome inv' rely guar' post' w := by
  induction p generalizing w with
  | ret value => exact implied value w outline
  | call op next ih =>
      intro a moved holds answer b out
      obtain ⟨kept, continued⟩ := outline a moved (stronger a holds) answer b out
      exact ⟨weaker a b holds kept, ih answer continued⟩

/-- Two outlines of one program, for outcomes and a rely that both allow. -/
theorem Prog.Outline.and {outcome' : (op : Op) → W → Res op → W → Prop}
    {rely' guar' : W → W → Prop} {post' : α → W → Prop} {p : Prog Op Res α} {w : W}
    (first : p.Outline outcome inv rely guar post w)
    (second : p.Outline outcome' inv rely' guar' post' w)
    (outcomes : ∀ op a answer b, outcome' op a answer b → outcome op a answer b)
    (relies : ∀ a b, rely' a b → rely a b) :
    p.Outline outcome' inv rely' (fun a b => guar a b ∧ guar' a b)
      (fun value a => post value a ∧ post' value a) w := by
  induction p generalizing w with
  | ret value => exact ⟨first, second⟩
  | call op next ih =>
      intro a moved holds answer b out
      obtain ⟨kept, continued⟩ :=
        first a (relies w a moved) holds answer b (outcomes op a answer b out)
      obtain ⟨kept', continued'⟩ := second a moved holds answer b out
      exact ⟨⟨kept, kept'⟩, ih answer continued continued'⟩

/-- Every call the program may come to issue is among `allowed`. -/
def Prog.Calls (allowed : Op → Prop) : Prog Op Res α → Prop
  | .ret _ => True
  | .call op next => allowed op ∧ ∀ answer, (next answer).Calls allowed

theorem Prog.Calls.of_perform {allowed : Op → Prop} {op : Op} {next : Res op → Prog Op Res α}
    (here : allowed op) (rest : ∀ answer, (next answer).Calls allowed) :
    (perform op >>= next).Calls allowed :=
  ⟨here, rest⟩

theorem Prog.Calls.bind {allowed : Op → Prop} {p : Prog Op Res α} {f : α → Prog Op Res β}
    (calls : p.Calls allowed) (rest : ∀ value, (f value).Calls allowed) :
    (p >>= f).Calls allowed := by
  induction p with
  | ret value => exact rest value
  | call op next ih => exact ⟨calls.1, fun answer => ih answer (calls.2 answer)⟩

theorem Prog.Calls.ite {allowed : Op → Prop} {condition : Prop} [Decidable condition]
    {p q : Prog Op Res α} (first : p.Calls allowed) (second : q.Calls allowed) :
    (if condition then p else q).Calls allowed := by
  split
  · exact first
  · exact second

/-- `Prog.Calls` as long as the calls are answered as `possible` says; and then the
program returns only what satisfies `post`. -/
def Prog.Ensures (possible : (op : Op) → Res op → Prop) (allowed : Op → Prop) (post : α → Prop) :
    Prog Op Res α → Prop
  | .ret value => post value
  | .call op next => allowed op ∧
      ∀ answer, possible op answer → (next answer).Ensures possible allowed post

section Ensures
variable {possible : (op : Op) → Res op → Prop} {allowed : Op → Prop} {post : α → Prop}
  {p : Prog Op Res α}

theorem Prog.Ensures.of_perform {op : Op} {next : Res op → Prog Op Res α} (here : allowed op)
    (rest : ∀ answer, possible op answer → (next answer).Ensures possible allowed post) :
    (perform op >>= next).Ensures possible allowed post :=
  ⟨here, rest⟩

theorem Prog.Ensures.bind {f : α → Prog Op Res β} {final : β → Prop}
    (ensures : p.Ensures possible allowed post)
    (rest : ∀ value, post value → (f value).Ensures possible allowed final) :
    (p >>= f).Ensures possible allowed final := by
  induction p with
  | ret value => exact rest value ensures
  | call op next ih => exact ⟨ensures.1, fun answer given => ih answer (ensures.2 answer given)⟩

theorem Prog.Calls.ensures (calls : p.Calls allowed) :
    p.Ensures possible allowed fun _ => True := by
  induction p with
  | ret value => trivial
  | call op next ih => exact ⟨calls.1, fun answer _ => ih answer (calls.2 answer)⟩

theorem Prog.Ensures.trace (ensures : p.Ensures possible allowed post)
    {answers : List Op → (op : Op) → Res op} (given : ∀ issued op, possible op (answers issued op))
    {issued : List Op} (before : ∀ op ∈ issued, allowed op) :
    ∀ op ∈ p.trace answers issued, allowed op := by
  induction p generalizing issued with
  | ret value => exact before
  | call op next ih =>
      refine ih (answers issued op) (ensures.2 _ (given issued op)) ?_
      intro other member
      rcases List.mem_append.mp member with earlier | here
      · exact before other earlier
      · rw [List.mem_singleton.mp here]
        exact ensures.1

end Ensures

theorem Prog.Outline.of_calls {allowed : Op → Prop} {p : Prog Op Res α} {w : W}
    (calls : p.Calls allowed)
    (kept : ∀ op a answer b, allowed op → outcome op a answer b → guar a b) :
    p.Outline outcome inv rely guar (fun _ _ => True) w := by
  induction p generalizing w with
  | ret value => trivial
  | call op next ih =>
      intro a _ _ answer b out
      exact ⟨kept op a answer b calls.1 out, ih answer (calls.2 answer)⟩

theorem Prog.Outline.eval (handle : (op : Op) → W → Res op × W)
    (faithful : ∀ op w, outcome op w (handle op w).1 (handle op w).2)
    (rely_refl : ∀ w, rely w w) (always : ∀ w, inv w) {p : Prog Op Res α} {w : W}
    (outline : p.Outline outcome inv rely guar post w) :
    post (p.eval handle w).1 (p.eval handle w).2 := by
  induction p generalizing w with
  | ret value => exact outline
  | call op next ih =>
      exact ih _ (outline w (rely_refl w) (always w) _ _ (faithful op w)).2

theorem Prog.Outline.bind {p : Prog Op Res α} {f : α → Prog Op Res β}
    {final : β → W → Prop} {w : W}
    (outline : p.Outline outcome inv rely guar post w)
    (rest : ∀ value a, post value a →
      (f value).Outline outcome inv rely guar final a) :
    (p >>= f).Outline outcome inv rely guar final w := by
  induction p generalizing w with
  | ret value => exact rest value w outline
  | call op next ih =>
      intro a moved holds answer b out
      obtain ⟨kept, continued⟩ := outline a moved holds answer b out
      exact ⟨kept, ih answer continued⟩

end Outline

/-- One invariant, one rely and one guarantee a thread, and the obligations
under which they compose. -/
structure Discipline (sys : System Tid W Op Res α) where
  inv : W → Prop
  rely : Tid → W → W → Prop
  guar : Tid → W → W → Prop
  rely_refl : ∀ tid a, rely tid a a
  rely_trans : ∀ tid a b c, rely tid a b → rely tid b c → rely tid a c
  guar_rely : ∀ tid other, tid ≠ other → ∀ a b, inv a → guar tid a b → rely other a b
  environment_rely : ∀ tid a b, inv a → sys.environment a b → rely tid a b
  guar_inv : ∀ tid a b, inv a → guar tid a b → inv b
  environment_inv : ∀ a b, inv a → sys.environment a b → inv b
  outlined : ∀ tid p w, sys.program tid p → inv w →
    p.Outline (sys.outcome tid) inv (rely tid) (guar tid) (fun _ _ => True) w

section Soundness
variable {sys : System Tid W Op Res α} (d : Discipline sys)

/-- The invariant holds and every running thread is still outlined. -/
def Discipline.Sound (c : Conf Tid W Op Res α) : Prop :=
  d.inv c.world ∧ ∀ tid p, c.running tid = some p →
    p.Outline (sys.outcome tid) d.inv (d.rely tid) (d.guar tid) (fun _ _ => True) c.world

omit [DecidableEq Tid] in
theorem Discipline.sound_of_idle (c : Conf Tid W Op Res α) (holds : d.inv c.world)
    (idle : ∀ tid, c.running tid = none) : d.Sound c :=
  ⟨holds, fun tid p at_p => by simp [idle tid] at at_p⟩

theorem Discipline.sound_update {c : Conf Tid W Op Res α} {w : W} {tid : Tid}
    {q : Option (Prog Op Res α)} (holds : d.inv w)
    (others : ∀ other p, other ≠ tid → c.running other = some p →
      p.Outline (sys.outcome other) d.inv (d.rely other) (d.guar other) (fun _ _ => True) w)
    (own : ∀ p, q = some p →
      p.Outline (sys.outcome tid) d.inv (d.rely tid) (d.guar tid) (fun _ _ => True) w) :
    d.Sound ⟨w, Function.update c.running tid q⟩ := by
  refine ⟨holds, ?_⟩
  intro other p at_p
  by_cases same : other = tid
  · subst same
    simp only [Function.update_self] at at_p
    exact own p at_p
  · simp only [Function.update_of_ne same] at at_p
    exact others other p same at_p

omit [DecidableEq Tid] in
theorem Discipline.outline_kept {c : Conf Tid W Op Res α} (sound : d.Sound c)
    {w : W} {tid : Tid} {p : Prog Op Res α} (at_p : c.running tid = some p)
    (moved : d.rely tid c.world w) :
    p.Outline (sys.outcome tid) d.inv (d.rely tid) (d.guar tid) (fun _ _ => True) w :=
  (sound.2 tid p at_p).stable (d.rely_trans tid) (fun _ _ _ h _ => h) moved

theorem Discipline.step_world {c c' : Conf Tid W Op Res α} {event : Event Tid Op Res}
    (sound : d.Sound c) (step : sys.Step c event c') :
    c'.world = c.world ∨ (∃ tid, d.guar tid c.world c'.world) ∨
      sys.environment c.world c'.world := by
  cases step with
  | start tid p idle allowed => exact Or.inl rfl
  | call tid op next answer world at_call out =>
      have outline := sound.2 tid _ at_call
      exact Or.inr (Or.inl ⟨tid,
        (outline c.world (d.rely_refl tid c.world) sound.1 answer world out).1⟩)
  | finish tid value at_ret => exact Or.inl rfl
  | crash tid => exact Or.inl rfl
  | environment world moves => exact Or.inr (Or.inr moves)

theorem Discipline.step_sound {c c' : Conf Tid W Op Res α} {event : Event Tid Op Res}
    (sound : d.Sound c) (step : sys.Step c event c') : d.Sound c' := by
  cases step with
  | start tid p idle allowed =>
      apply d.sound_update sound.1 (fun other q _ at_q => sound.2 other q at_q)
      intro q chosen
      cases chosen
      exact d.outlined tid p c.world allowed sound.1
  | call tid op next answer world at_call out =>
      -- the caller's outline is consumed by its step, the others' kept by rely
      obtain ⟨kept, continued⟩ := sound.2 tid _ at_call c.world
        (d.rely_refl tid c.world) sound.1 answer world out
      refine d.sound_update (d.guar_inv tid _ _ sound.1 kept) ?_ ?_
      · intro other q different at_q
        exact d.outline_kept sound at_q
          (d.guar_rely tid other (Ne.symm different) _ _ sound.1 kept)
      · intro q chosen
        cases chosen
        exact continued
  | finish tid value at_ret =>
      exact d.sound_update sound.1 (fun other q _ at_q => sound.2 other q at_q)
        (fun q chosen => by cases chosen)
  | crash tid =>
      exact d.sound_update sound.1 (fun other q _ at_q => sound.2 other q at_q)
        (fun q chosen => by cases chosen)
  | environment world moves =>
      refine ⟨d.environment_inv _ _ sound.1 moves, ?_⟩
      intro other q at_q
      exact d.outline_kept sound at_q (d.environment_rely other _ _ sound.1 moves)

theorem Discipline.run_sound {c c' : Conf Tid W Op Res α}
    {history : List (Conf Tid W Op Res α × Event Tid Op Res)}
    (sound : d.Sound c) (run : sys.Run c history c') : d.Sound c' := by
  induction run with
  | nil => exact sound
  | snoc before step ih => exact d.step_sound ih step

/-- A reflexive and transitive relation that every guaranteed and every
environment move respects relates the two ends of any run. -/
theorem Discipline.run_observed (observe : W → W → Prop)
    (observe_refl : ∀ a, observe a a)
    (observe_trans : ∀ a b c, observe a b → observe b c → observe a c)
    (guar_observe : ∀ tid a b, d.inv a → d.guar tid a b → observe a b)
    (environment_observe : ∀ a b, d.inv a → sys.environment a b → observe a b)
    {c c' : Conf Tid W Op Res α}
    {history : List (Conf Tid W Op Res α × Event Tid Op Res)}
    (sound : d.Sound c) (run : sys.Run c history c') :
    observe c.world c'.world := by
  induction run with
  | nil => exact observe_refl c.world
  | @snoc history middle final event before step ih =>
      have middleSound := d.run_sound sound before
      refine observe_trans _ _ _ ih ?_
      rcases d.step_world middleSound step with same | ⟨tid, kept⟩ | moves
      · rw [same]
        exact observe_refl middle.world
      · exact guar_observe tid _ _ middleSound.1 kept
      · exact environment_observe _ _ middleSound.1 moves

end Soundness

end Concurrent

end CloudOS.Lib.CallProgram
