import Mathlib.Data.Nat.Init
import Mathlib.Order.Basic

/-!
# Fixed windows and sliding intervals

Times are natural numbers.  A fixed window holds the times with the same
quotient by its width; an interval of the same width may start anywhere, and
then lies across two windows.  `sliding_snoc` says what one more time, later
than the others, does to a bound on all intervals that its own window keeps to.
-/

set_option autoImplicit false

namespace CloudOS.Lib.TimeWindows

def inWindow (width n : Nat) (times : List Nat) : Nat :=
  times.countP fun t => t / width = n

def inInterval (width s : Nat) (times : List Nat) : Nat :=
  times.countP fun t => s ≤ t ∧ t < s + width

def windowBefore (width now : Nat) (times : List Nat) : List Nat :=
  times.filter fun t => t / width + 1 = now / width

/-- The first times of the window before, as many as are beyond the limit
together with those of the window of `now` and `now` itself. -/
def surplus (width limit now : Nat) (times : List Nat) : List Nat :=
  (windowBefore width now times).take
    ((windowBefore width now times).length + inWindow width (now / width) times + 1 - limit)

def recent (width now : Nat) (times : List Nat) : Nat := times.countP fun t => now < t + width

def windowEnd (width now : Nat) : Nat := now / width * width + width

section Widths
variable {width now : Nat} {times : List Nat}

theorem windowEnd_le_iff (pos : 0 < width) {t : Nat} :
    windowEnd width now ≤ t ↔ now / width < t / width := by
  unfold windowEnd
  rw [← Nat.succ_mul, ← Nat.le_div_iff_mul_le pos]
  exact Nat.succ_le_iff

theorem recent_cases (pos : 0 < width) {t : Nat} (past : t ≤ now) (young : now < t + width) :
    t / width + 1 = now / width ∨ t / width = now / width := by
  have lower : t / width ≤ now / width := Nat.div_le_div_right past
  have upper : now / width < t / width + 2 := by
    rw [Nat.div_lt_iff_lt_mul pos]
    have whole := Nat.lt_div_mul_add pos (a := t)
    rw [Nat.add_mul, Nat.two_mul]
    omega
  omega

theorem young_of_same (pos : 0 < width) {t : Nat} (same : t / width = now / width) :
    now < t + width := by
  have after := Nat.lt_div_mul_add pos (a := now)
  have before := Nat.div_mul_le_self t width
  rw [same] at before
  omega

theorem recent_eq (pos : 0 < width) (past : ∀ t ∈ times, t ≤ now) :
    recent width now times =
      recent width now (windowBefore width now times) + inWindow width (now / width) times := by
  induction times with
  | nil => rfl
  | cons t rest ih =>
      have counted := ih fun u member => past u (List.mem_cons_of_mem t member)
      have cases := recent_cases pos (past t List.mem_cons_self)
      simp only [recent, windowBefore, inWindow, List.countP_filter, List.countP_cons,
        Bool.and_eq_true, decide_eq_true_eq] at counted ⊢
      rw [counted]
      by_cases same : t / width = now / width
      · rw [if_pos (young_of_same pos same), if_neg (by omega), if_pos same]
        omega
      · by_cases young : now < t + width
        · rw [if_pos young, if_pos ⟨young, (cases young).resolve_right same⟩, if_neg same]
          omega
        · rw [if_neg young, if_neg fun both => young both.1, if_neg same]
          omega

theorem recent_le_length (times : List Nat) : recent width now times ≤ times.length :=
  List.countP_le_length

theorem recent_cons (t : Nat) (rest : List Nat) :
    recent width now (t :: rest) =
      recent width now rest + if now < t + width then 1 else 0 := by
  simp [recent, List.countP_cons]

theorem take_old_iff (sorted : times.Pairwise (· ≤ ·)) (count : Nat) :
    (∀ t ∈ times.take count, t + width ≤ now) ↔ recent width now times ≤ times.length - count := by
  induction times generalizing count with
  | nil => simp [recent]
  | cons t rest ih =>
      obtain ⟨first, later⟩ := List.pairwise_cons.mp sorted
      cases count with
      | zero => exact iff_of_true (by simp) (recent_le_length (t :: rest))
      | succ count =>
          rw [List.take_succ_cons, List.forall_mem_cons, ih later, recent_cons, List.length_cons]
          by_cases young : now < t + width
          · have all : recent width now rest = rest.length := by
              apply List.countP_eq_length.mpr
              intro u member
              have order := first u member
              simp only [decide_eq_true_eq]
              omega
            rw [all, if_pos young]
            omega
          · rw [if_neg young]
            omega

theorem inWindow_snoc (n now : Nat) (times : List Nat) :
    inWindow width n (times ++ [now]) =
      inWindow width n times + if now / width = n then 1 else 0 := by
  simp [inWindow, List.countP_append, List.countP_cons]

theorem inInterval_snoc (s now : Nat) (times : List Nat) :
    inInterval width s (times ++ [now]) =
      inInterval width s times + if s ≤ now ∧ now < s + width then 1 else 0 := by
  simp [inInterval, List.countP_append, List.countP_cons]

theorem inInterval_le_recent (times : List Nat) {s : Nat} (reaches : now < s + width) :
    inInterval width s times ≤ recent width now times := by
  apply List.countP_mono_left
  intro t _ inside
  simp only [decide_eq_true_eq] at inside ⊢
  omega

theorem recent_le_inInterval (width : Nat) (past : ∀ t ∈ times, t ≤ now) :
    recent width now times ≤ inInterval width (now + 1 - width) times := by
  apply List.countP_mono_left
  intro t member young
  have before := past t member
  simp only [decide_eq_true_eq] at young ⊢
  omega

/-- One more time: the intervals that hold it are bounded exactly when the
surplus of the window before is over. -/
theorem sliding_snoc (pos : 0 < width) (sorted : times.Pairwise (· ≤ ·))
    (past : ∀ t ∈ times, t ≤ now) {limit : Nat}
    (room : inWindow width (now / width) times < limit) :
    (∀ s, inInterval width s (times ++ [now]) ≤ limit) ↔
      (∀ s, inInterval width s times ≤ limit) ∧
        ∀ t ∈ surplus width limit now times, t + width ≤ now := by
  have split := recent_eq pos past
  have inOrder : (windowBefore width now times).Pairwise (· ≤ ·) := sorted.filter _
  have ofBefore := @recent_le_length width now (windowBefore width now times)
  rw [surplus, take_old_iff inOrder]
  constructor
  · intro bounded
    constructor
    · intro s
      have here := bounded s
      rw [inInterval_snoc] at here
      omega
    · have last := bounded (now + 1 - width)
      have all := recent_le_inInterval width past
      have own : now + 1 - width ≤ now ∧ now < now + 1 - width + width := by omega
      rw [inInterval_snoc, if_pos own] at last
      omega
  · rintro ⟨bounded, fits⟩ s
    have here := bounded s
    rw [inInterval_snoc]
    by_cases holds : s ≤ now ∧ now < s + width
    · have few := inInterval_le_recent times holds.2
      rw [if_pos holds]
      omega
    · rw [if_neg holds]
      omega

end Widths

end CloudOS.Lib.TimeWindows
