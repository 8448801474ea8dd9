import Mathlib.Order.Lattice
import Mathlib.Order.Defs.LinearOrder
import Sam.Core.Registry

/-!
# Health aggregation (`sam-core/src/health.rs`, `state.rs`)

* `calculate`, `calculateApplication` — the source's loop with its early exit, and the health
  of one application.
* `worst` — the maximum under `Healthy < Degraded < Failed`, the aggregation the documentation
  of `HealthState` describes.  `calculate_eq_worst`: the loop computes it, whatever the order
  of the entries.
-/

namespace Sam

/-- Position in the order in which `Failed` dominates `Degraded`, which dominates `Healthy`. -/
def HealthState.rank : HealthState → Nat
  | .healthy => 0
  | .degraded => 1
  | .failed => 2

theorem HealthState.rank_injective : Function.Injective HealthState.rank := by
  intro x y h
  cases x <;> cases y <;> first | rfl | cases h

instance : LinearOrder HealthState := LinearOrder.lift' HealthState.rank HealthState.rank_injective

theorem HealthState.le_iff {x y : HealthState} : x ≤ y ↔ x.rank ≤ y.rank := Iff.rfl

theorem HealthState.healthy_le (x : HealthState) : .healthy ≤ x := by
  rw [HealthState.le_iff]; exact Nat.zero_le _

theorem HealthState.le_failed (x : HealthState) : x ≤ .failed := by
  cases x <;> decide

/-- The dominating health of a list, `Healthy` when it is empty. -/
def worst (healths : List HealthState) : HealthState := healths.foldr max .healthy

@[simp] theorem worst_nil : worst [] = .healthy := rfl

@[simp] theorem worst_cons (h : HealthState) (hs : List HealthState) :
    worst (h :: hs) = max h (worst hs) := rfl

theorem le_worst {h : HealthState} {hs : List HealthState} (hm : h ∈ hs) : h ≤ worst hs := by
  induction hs with
  | nil => cases hm
  | cons x xs ih =>
    rcases List.mem_cons.mp hm with rfl | hm
    · exact le_max_left _ _
    · exact (ih hm).trans (le_max_right _ _)

theorem worst_le {h : HealthState} {hs : List HealthState} (hle : ∀ x ∈ hs, x ≤ h) :
    worst hs ≤ h := by
  induction hs with
  | nil => exact HealthState.healthy_le h
  | cons x xs ih =>
    exact max_le (hle x List.mem_cons_self) (ih fun y hy => hle y (List.mem_cons_of_mem _ hy))

/-- `SystemState`. -/
@[ext]
structure SystemState where
  mode : SystemMode
  health : HealthState
  deriving DecidableEq, Repr

/-- `SystemState::default`. -/
def SystemState.default : SystemState := ⟨.startup, .healthy⟩

structure HealthManager where
  heartbeatTimeout : Duration

namespace HealthManager

/-- `HealthManager::calculate_application`. -/
def calculateApplication (m : HealthManager) (application : ApplicationStatus) (now : Instant) :
    HealthState :=
  if !application.connected
      || decide (now.saturatingDurationSince application.lastHeartbeat > m.heartbeatTimeout)
      || application.health == .failed then .failed
  else application.health

/-- The loop of `HealthManager::calculate`, from `overall` on. -/
def calculateFrom (m : HealthManager) (now : Instant) :
    HealthState → List (ApplicationId × ApplicationStatus) → HealthState
  | overall, [] => overall
  | overall, (_, application) :: rest =>
    match m.calculateApplication application now with
    | .failed => .failed
    | .degraded => m.calculateFrom now .degraded rest
    | .healthy => m.calculateFrom now overall rest

/-- `HealthManager::calculate`. -/
def calculate (m : HealthManager) (registry : ApplicationRegistry) (now : Instant) : HealthState :=
  m.calculateFrom now .healthy registry.iter

theorem calculateFrom_eq_worst (m : HealthManager) (now : Instant) :
    ∀ (l : List (ApplicationId × ApplicationStatus)) (overall : HealthState), overall ≠ .failed →
      m.calculateFrom now overall l =
        max overall (worst (l.map fun e => m.calculateApplication e.2 now)) := by
  intro l
  induction l with
  | nil =>
    intro overall _
    cases overall <;> rfl
  | cons e rest ih =>
    intro overall h
    unfold calculateFrom
    split
    · rename_i he
      rw [List.map_cons, worst_cons, he, max_eq_left (HealthState.le_failed _),
        max_eq_right (HealthState.le_failed _)]
    · rename_i he
      have ho : max overall .degraded = .degraded := by
        cases overall <;> first | rfl | exact absurd rfl h
      rw [ih .degraded (by decide), List.map_cons, worst_cons, he,
        ← max_assoc, ho]
    · rename_i he
      rw [ih overall h, List.map_cons, worst_cons, he,
        max_eq_right (HealthState.healthy_le _)]

/-- **The early-exit loop computes the dominating health.** -/
theorem calculate_eq_worst (m : HealthManager) (registry : ApplicationRegistry) (now : Instant) :
    m.calculate registry now =
      worst (registry.iter.map fun e => m.calculateApplication e.2 now) := by
  unfold calculate
  rw [calculateFrom_eq_worst m now _ _ (by decide), max_eq_right (HealthState.healthy_le _)]

end HealthManager

end Sam
