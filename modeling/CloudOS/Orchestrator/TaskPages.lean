import CloudOS.Orchestrator.TaskHandler

/-!
# Listing tasks page by page

`ListTasks` asks the server for the first `limit + offset` tasks, filters what it
gets by status, counts that as the total and cuts the page out of it.  The tasks
behind those are not in the total, and an offset into the filtered tasks is not
one into the tasks asked for.
-/

set_option autoImplicit false

namespace CloudOS.Orchestrator.TaskPages

open CloudOS.Kubernetes.Objects
open CloudOS.Orchestrator.ApiRouter
open CloudOS.Orchestrator.CloudTaskReconcile
open CloudOS.Orchestrator.HttpAuth
open CloudOS.Orchestrator.TaskHandler
open CloudOS.Orchestrator.TaskValidator

/-! ## The parameters of a page -/

theorem isDigit_of_mem_toString {c : Char} {n : Nat} (member : c ∈ (toString n).toList) :
    c.isDigit = true := by
  rw [Nat.toString_eq_repr, Nat.toList_repr] at member
  exact Nat.isDigit_of_mem_toDigits (by decide) (by decide) member

theorem atoi_toString {n : Nat} (fits : (n : Int) ≤ maxInt) : atoi (toString n) = some (n : Int) := by
  have allDigits : ∀ c ∈ (toString n).toList, c.isDigit = true :=
    fun c member => isDigit_of_mem_toString member
  have value : Nat.ofDigitChars 10 (toString n).toList 0 = n := by
    rw [Nat.toString_eq_repr, Nat.toList_repr, Nat.ofDigitChars_ten_toDigits]
  have nonempty : (toString n).toList ≠ [] := by
    rw [Nat.toString_eq_repr, Nat.toList_repr]
    exact Nat.toDigits_ne_nil
  unfold atoi
  generalize (toString n).toList = chars at allDigits value nonempty
  have noSign : ∀ rest, chars ≠ '-' :: rest ∧ chars ≠ '+' :: rest := by
    intro rest
    constructor
    · rintro rfl
      exact absurd (allDigits '-' List.mem_cons_self) (by decide)
    · rintro rfl
      exact absurd (allDigits '+' List.mem_cons_self) (by decide)
  have onlyDigits : chars.any (fun c => !c.isDigit) = false := by
    rw [List.any_eq_false]
    intro c member
    simp [allDigits c member]
  have small : ¬((n : Int) < -maxInt - 1 ∨ (n : Int) > maxInt) := by
    unfold maxInt at fits ⊢
    omega
  split
  next negative digits eq =>
    split at eq
    · exact absurd rfl (noSign _).1
    · exact absurd rfl (noSign _).2
    · obtain ⟨rfl, rfl⟩ := Prod.mk.inj eq
      simp [nonempty, onlyDigits, value, small]

def pageRequest (base : HttpRequest) (status : String) (limit offset : Nat) : HttpRequest :=
  { base with
    query := [("status", status), ("limit", toString limit), ("offset", toString offset)] }

section Parameters
variable (base : HttpRequest) (status : String) {limit offset : Nat}

theorem queryGet_status : (pageRequest base status limit offset).queryGet "status" = status := rfl

theorem limitOf_pageRequest (positive : 0 < limit) (most : limit ≤ 500) :
    limitOf (pageRequest base status limit offset) = limit := by
  have fits : (limit : Int) ≤ maxInt := by
    unfold maxInt
    omega
  have given : (pageRequest base status limit offset).queryGet "limit" = toString limit := rfl
  have inRange : ¬(limit : Int) > 500 := by omega
  rw [limitOf, given, atoi_toString fits]
  simp [positive, inRange]

theorem offsetOf_pageRequest (fits : (offset : Int) ≤ maxInt) :
    offsetOf (pageRequest base status limit offset) = offset := by
  have given : (pageRequest base status limit offset).queryGet "offset" = toString offset := rfl
  rw [offsetOf, given, atoi_toString fits]
  simp

end Parameters

/-! ## One page -/

theorem pageOf_eq (offset limit : Nat) (tasks : List StoredTask) :
    pageOf offset limit tasks = (tasks.drop offset).take limit := by
  unfold pageOf
  split
  next beyond => rw [List.drop_of_length_le (by omega), List.take_nil]
  next within =>
    split
    next last => rw [List.take_of_length_le (by simp; omega)]
    next inner => rfl

section Pages
variable (b : Backend) (tenantID : String) (cluster : Cluster)

def listed : List StoredTask := b.arrange (cluster (tenantNamespace tenantID)).items

/-- What `client.Limit(int64(limit + offset))` leaves of a listing. -/
def fetched (limit offset : Nat) (tasks : List StoredTask) : List StoredTask :=
  let sum := Int.bmod (limit + offset) 18446744073709551616
  if sum ≤ 0 then tasks else tasks.take sum.toNat

theorem listTasks_pageRequest (now : Nat) (base : HttpRequest) {status : String}
    {limit offset : Nat} (known : validateStatus status = none) (positive : 0 < limit)
    (most : limit ≤ 500) (fits : (offset : Int) ≤ maxInt) :
    listTasks b (.healthy now) tenantID (pageRequest base status limit offset) cluster =
      .page ((((fetched limit offset (listed b tenantID cluster)).filter
          (hasStatus status)).drop offset).take limit)
        ((fetched limit offset (listed b tenantID cluster)).filter (hasStatus status)).length
        limit offset := by
  simp only [listTasks, queryGet_status, known, limitOf_pageRequest base status positive most,
    offsetOf_pageRequest base status fits, kubeList, KubeEnv.healthy, pageOf_eq]
  rfl

theorem fetched_cases {limit offset : Nat} (positive : 0 < limit) (most : limit ≤ 500)
    (fits : (offset : Int) ≤ maxInt) (tasks : List StoredTask) :
    fetched limit offset tasks = tasks.take (limit + offset) ∨
      fetched limit offset tasks = tasks := by
  unfold fetched maxInt at *
  by_cases small : (limit : Int) + offset ≤ 9223372036854775807
  · have same : Int.bmod (limit + offset) 18446744073709551616 = limit + offset := by
      rw [Int.bmod_eq_of_le] <;> omega
    left
    simp only [same]
    rw [if_neg (by omega)]
    congr 1
  · have wrapped : Int.bmod (limit + offset) 18446744073709551616 =
        limit + offset - 18446744073709551616 := by
      rw [← Int.sub_bmod_right, Int.bmod_eq_of_le] <;> omega
    right
    simp only [wrapped]
    rw [if_pos (by omega)]

theorem fetched_first {limit : Nat} (positive : 0 < limit) (most : limit ≤ 500)
    (tasks : List StoredTask) : fetched limit 0 tasks = tasks.take limit := by
  have same : Int.bmod ((limit : Int) + (0 : Nat)) 18446744073709551616 = limit := by
    rw [Int.bmod_eq_of_le] <;> omega
  unfold fetched
  simp only [same]
  rw [if_neg (by omega), Int.toNat_natCast]

/-! ## All pages -/

theorem filter_take_of_drop {p : StoredTask → Bool} {tasks : List StoredTask} {n m : Nat}
    (le : n ≤ m) (none : (tasks.drop n).filter p = []) :
    (tasks.take m).filter p = tasks.filter p := by
  have later : (tasks.drop m).filter p = [] := by
    have within : (tasks.drop m).Sublist (tasks.drop n) := List.drop_sublist_drop_left tasks le
    exact List.sublist_nil.mp (none ▸ within.filter p)
  conv_rhs => rw [← List.take_append_drop m tasks, List.filter_append, later, List.append_nil]

theorem flatMap_pages {α : Type} (items : List α) (size count : Nat) :
    (List.range count).flatMap (fun k => (items.drop (k * size)).take size) =
      items.take (count * size) := by
  induction count with
  | zero => simp
  | succ count ih =>
      rw [List.range_succ, List.flatMap_append, ih, List.flatMap_singleton, Nat.succ_mul,
        List.take_add]

def pageAt (now : Nat) (base : HttpRequest) (status : String) (limit k : Nat) : Reply :=
  listTasks b (.healthy now) tenantID (pageRequest base status limit (k * limit)) cluster

/-- Every page has the right total, and pages that reach the end make up the
matching tasks. -/
structure Complete (now : Nat) (base : HttpRequest) (status : String) (limit : Nat) : Prop where
  total : ∀ k : Nat, ((k * limit : Nat) : Int) ≤ maxInt →
    ∃ tasks, pageAt b tenantID cluster now base status limit k =
      .page tasks ((listed b tenantID cluster).filter (hasStatus status)).length limit (k * limit)
  pages : ∀ count : Nat, ((count * limit : Nat) : Int) ≤ maxInt →
    ((listed b tenantID cluster).filter (hasStatus status)).length ≤ count * limit →
    (List.range count).flatMap
        (fun k => (pageAt b tenantID cluster now base status limit k).describes) =
      (listed b tenantID cluster).filter (hasStatus status)

theorem pageAt_of_drop {now : Nat} {base : HttpRequest} {status : String} {limit k : Nat}
    (known : validateStatus status = none) (positive : 0 < limit) (most : limit ≤ 500)
    (fits : ((k * limit : Nat) : Int) ≤ maxInt)
    (none : ((listed b tenantID cluster).drop limit).filter (hasStatus status) = []) :
    pageAt b tenantID cluster now base status limit k =
      .page ((((listed b tenantID cluster).filter (hasStatus status)).drop (k * limit)).take limit)
        ((listed b tenantID cluster).filter (hasStatus status)).length limit (k * limit) := by
  have all : (fetched limit (k * limit) (listed b tenantID cluster)).filter (hasStatus status) =
      (listed b tenantID cluster).filter (hasStatus status) := by
    rcases fetched_cases positive most fits (listed b tenantID cluster) with part | whole
    · rw [part]
      exact filter_take_of_drop (Nat.le_add_right limit _) none
    · rw [whole]
  rw [pageAt, listTasks_pageRequest b tenantID cluster now base known positive most fits, all]

/-- The pages are complete exactly when no matching task comes after the first
`limit` tasks of the namespace. -/
theorem pages_complete_iff (now : Nat) (base : HttpRequest) (status : String) (limit : Nat)
    (known : validateStatus status = none) (positive : 0 < limit) (most : limit ≤ 500) :
    Complete b tenantID cluster now base status limit ↔
      ((listed b tenantID cluster).drop limit).filter (hasStatus status) = [] := by
  constructor
  · intro complete
    -- the first page already counts only the tasks up to the limit
    obtain ⟨tasks, first⟩ := complete.total 0 (by unfold maxInt; omega)
    have start : ((0 * limit : Nat) : Int) ≤ maxInt := by
      unfold maxInt
      omega
    rw [pageAt, listTasks_pageRequest b tenantID cluster now base known positive most start,
      Nat.zero_mul, fetched_first positive most] at first
    have counts := (Reply.page.inj first).2.1
    have split := congrArg List.length
      (congrArg (List.filter (hasStatus status))
        (List.take_append_drop limit (listed b tenantID cluster)))
    rw [List.filter_append, List.length_append] at split
    exact List.eq_nil_of_length_eq_zero (by omega)
  · intro none
    constructor
    · intro k fits
      exact ⟨_, pageAt_of_drop b tenantID cluster known positive most fits none⟩
    · intro count fits reach
      have cuts : ∀ k ∈ List.range count,
          (pageAt b tenantID cluster now base status limit k).describes =
            (((listed b tenantID cluster).filter (hasStatus status)).drop (k * limit)).take
              limit := by
        intro k member
        have below : k * limit ≤ count * limit :=
          Nat.mul_le_mul_right limit (List.mem_range.mp member).le
        rw [pageAt_of_drop b tenantID cluster known positive most (by omega) none]
        rfl
      rw [List.flatMap_congr cuts, flatMap_pages, List.take_of_length_le reach]

end Pages

/-! ## Two tasks, one of them failed -/

/-- A namespace in the order of its creation, where everything is accepted. -/
def plainBackend : Backend where
  unmarshal := fun _ => .error "unexpected end of JSON input"
  showTime := toString
  admission := fun _ spec => .ok spec
  arrange := id
  arranged := fun _ => .refl _

def taskWithPhase (name : String) (phase : CloudTaskPhase) : StoredTask where
  key := ⟨"tenant-a", name⟩
  labels := []
  creationTimestamp := 0
  finalizers := []
  deletionTimestamp := none
  spec := ⟨"busybox", ["true"], [], none, 0, "", "a", 0, [], [], .empty, .empty⟩
  status := { CloudTaskStatus.zero with phase := phase }

def pendingThenFailed : Tasks "tenant-a" where
  items := [taskWithPhase "first" .pending, taskWithPhase "second" .failed]
  placed := by
    intro task member
    simp only [List.mem_cons, List.not_mem_nil, or_false] at member
    rcases member with rfl | rfl
    · rfl
    · rfl
  distinct := by decide

def noTasks (ns : String) : Tasks ns := ⟨[], fun _ member => absurd member List.not_mem_nil, .nil⟩

def twoTaskCluster : Cluster := Function.update noTasks "tenant-a" pendingThenFailed

/-- Pages of one task never show the failed one. -/
theorem failed_task_on_no_page :
    ((listed plainBackend "a" twoTaskCluster).filter (hasStatus "Failed")).map
        (fun task => task.key.name) = ["second"] ∧
      (List.range 2).flatMap (fun k =>
        (pageAt plainBackend "a" twoTaskCluster 0 (listRequest 0) "Failed" 1 k).describes.map
          fun task => task.key.name) = [] ∧
      ¬ Complete plainBackend "a" twoTaskCluster 0 (listRequest 0) "Failed" 1 := by
  have wanted : ((listed plainBackend "a" twoTaskCluster).filter (hasStatus "Failed")).map
      (fun task => task.key.name) = ["second"] := by decide +kernel
  have shown : (List.range 2).flatMap (fun k =>
      (pageAt plainBackend "a" twoTaskCluster 0 (listRequest 0) "Failed" 1 k).describes.map
        fun task => task.key.name) = [] := by decide +kernel
  refine ⟨wanted, shown, ?_⟩
  intro complete
  have reach : ((listed plainBackend "a" twoTaskCluster).filter (hasStatus "Failed")).length ≤
      2 * 1 := by decide +kernel
  have pages := congrArg (List.map fun task => task.key.name) (complete.pages 2 (by decide) reach)
  rw [List.map_flatMap, shown, wanted] at pages
  cases pages

theorem both_tasks_on_one_page :
    (validateStatus "Failed" = none ∧ 0 < 2 ∧ 2 ≤ 500) ∧
      Complete plainBackend "a" twoTaskCluster 0 (listRequest 0) "Failed" 2 := by
  have known : validateStatus "Failed" = none := by decide +kernel
  refine ⟨⟨known, by decide, by decide⟩, ?_⟩
  refine (pages_complete_iff plainBackend "a" twoTaskCluster 0 (listRequest 0) "Failed" 2 known
    (by decide) (by decide)).mpr ?_
  exact List.isEmpty_iff.mp (by decide +kernel)

end CloudOS.Orchestrator.TaskPages
