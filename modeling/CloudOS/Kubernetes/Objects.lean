import Mathlib.Data.Rat.Defs

/-!
# Kubernetes objects the controllers read and write

The parts of `corev1.Pod`, of object metadata and of API errors that the two
controllers of this repository touch.  Go maps are total functions into
`Option`; quantities are the rational numbers they denote.
-/

set_option autoImplicit false

namespace CloudOS.Kubernetes.Objects

structure ObjectKey where
  ns : String
  name : String
  deriving DecidableEq, Repr

/-- The reasons `apierrors.IsNotFound` and the API server tell apart. -/
inductive StatusReason where
  | notFound
  | alreadyExists
  | conflict
  | unavailable
  deriving DecidableEq, Repr

structure ApiError where
  reason : StatusReason
  message : String
  deriving DecidableEq, Repr

def notFoundError (kind name : String) : ApiError :=
  ⟨.notFound, kind ++ " \"" ++ name ++ "\" not found"⟩

def alreadyExistsError (kind name : String) : ApiError :=
  ⟨.alreadyExists, kind ++ " \"" ++ name ++ "\" already exists"⟩

def conflictError (kind name : String) : ApiError :=
  ⟨.conflict, "Operation cannot be fulfilled on " ++ kind ++ " \"" ++ name ++
    "\": the object has been modified; please apply your changes to the latest version and try again"⟩

/-! ## Pods -/

inductive PodPhase where
  | pending
  | running
  | succeeded
  | failed
  | unknown
  deriving DecidableEq, Repr

def PodPhase.terminated : PodPhase → Bool
  | .succeeded => true
  | .failed => true
  | _ => false

def PodPhase.rank : PodPhase → Nat
  | .pending => 0
  | .running => 1
  | .unknown => 1
  | .succeeded => 2
  | .failed => 2

/-- A phase never goes back to an earlier one, and a terminated pod stays as
it ended.  `Unknown` is the kubelet being out of reach of a started pod. -/
def PodPhase.Forward (before after : PodPhase) : Prop :=
  before = after ∨ (before.terminated = false ∧ before.rank ≤ after.rank)

theorem forward_refl (phase : PodPhase) : phase.Forward phase := Or.inl rfl

theorem forward_trans {a b c : PodPhase} (first : a.Forward b) (second : b.Forward c) :
    a.Forward c := by
  rcases first with rfl | ⟨live, le⟩
  · exact second
  · rcases second with rfl | ⟨_, le'⟩
    · exact Or.inr ⟨live, le⟩
    · exact Or.inr ⟨live, Nat.le_trans le le'⟩

theorem forward_of_terminated {before after : PodPhase} (moved : before.Forward after)
    (final : before.terminated = true) : after = before := by
  rcases moved with same | ⟨live, _⟩
  · exact same.symm
  · rw [final] at live
    cases live

def StringMap : Type := String → Option String

def StringMap.empty : StringMap := fun _ => none

/-- `m[key] = value` -/
def StringMap.set (m : StringMap) (key value : String) : StringMap :=
  fun other => if other = key then some value else m other

/-- `for k, v := range overrides { m[k] = v }`; no two entries share a key, so
the order of the iteration does not matter. -/
def StringMap.merge (m overrides : StringMap) : StringMap :=
  fun key => match overrides key with
    | some value => some value
    | none => m key

structure EnvVar where
  name : String
  value : String
  deriving DecidableEq, Repr

structure VolumeMount where
  name : String
  mountPath : String
  deriving DecidableEq, Repr

structure ResourceList where
  cpu : Option ℚ
  memory : Option ℚ

structure ResourceRequirements where
  requests : Option ResourceList
  limits : Option ResourceList

structure Container where
  name : String
  image : String
  command : List String
  args : List String
  env : List EnvVar
  volumeMounts : List VolumeMount
  imagePullPolicy : Option String
  resources : ResourceRequirements

structure PodSpec where
  restartPolicy : String
  containers : List Container
  activeDeadlineSeconds : Option Int
  terminationGracePeriodSeconds : Option Int

/-- `terminated` is the reason in `State.Terminated`, when that is not nil. -/
structure ContainerStatus where
  terminated : Option String

structure PodStatus where
  phase : PodPhase
  reason : String
  containerStatuses : List ContainerStatus

def PodStatus.fresh : PodStatus := ⟨.pending, "", []⟩

structure OwnerReference where
  kind : String
  name : String
  deriving DecidableEq, Repr

/-- `uid` tells apart successive pods of one name; `deleting` is a deletion
timestamp. -/
structure Pod where
  key : ObjectKey
  uid : Nat
  labels : StringMap
  annotations : StringMap
  owner : Option OwnerReference
  deleting : Bool
  spec : PodSpec
  status : PodStatus

/-- The same incarnation of a pod, at a later time. -/
structure Pod.Later (p p' : Pod) : Prop where
  key : p'.key = p.key
  uid : p'.uid = p.uid
  forward : p.status.phase.Forward p'.status.phase

theorem later_refl (p : Pod) : p.Later p := ⟨rfl, rfl, forward_refl _⟩

theorem later_trans {p p' p'' : Pod} (first : p.Later p') (second : p'.Later p'') :
    p.Later p'' :=
  ⟨second.key.trans first.key, second.uid.trans first.uid,
    forward_trans first.forward second.forward⟩

end CloudOS.Kubernetes.Objects
