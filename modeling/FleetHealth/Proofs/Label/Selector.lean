import FleetHealth.Label.Selector
import FleetHealth.Proofs.Except
import FleetHealth.Proofs.Label.Name
import Mathlib.Tactic.MkIffOfInductiveProp

namespace FleetHealth

def LabelExpression.valueList (e : LabelExpression) : List String := e.values.getD []

def LabelSelector.expressionList (s : LabelSelector) : List LabelExpression :=
  s.matchExpressions.getD []

/-- An operator has the values that it needs and no others. -/
def LabelExpression.IsApplied (e : LabelExpression) : Prop :=
  e.operator ∈ ["In", "NotIn"] ∧ e.valueList ≠ [] ∨
    e.operator ∈ ["Exists", "DoesNotExist"] ∧ e.valueList = []

@[mk_iff] structure LabelExpression.Sound (e : LabelExpression) : Prop where
  key : Label.QualifiedName e.key
  values : ∀ v ∈ e.valueList, Label.Value v
  applied : e.IsApplied

@[mk_iff] structure LabelSelector.Sound (s : LabelSelector) : Prop where
  labels : ∀ table, s.matchLabels = some table →
    ∀ l ∈ table.toList, Label.QualifiedName l.1 ∧ Label.Value l.2
  expressions : ∀ es, s.matchExpressions = some es → ∀ e ∈ es, e.Sound

@[mk_iff] structure LabelExpression.Admits (e : LabelExpression) (set : Labels) : Prop where
  isIn : e.operator = "In" → ∃ v ∈ e.valueList, set.get? e.key = some v
  notIn : e.operator = "NotIn" → ∀ v ∈ e.valueList, set.get? e.key ≠ some v
  present : e.operator = "Exists" → ∃ v, set.get? e.key = some v
  absent : e.operator = "DoesNotExist" → set.get? e.key = none

@[mk_iff] structure LabelSelector.Admits (s : LabelSelector) (set : Labels) : Prop where
  labels : ∀ table, s.matchLabels = some table → ∀ l ∈ table.toList, set.get? l.1 = some l.2
  expressions : ∀ es, s.matchExpressions = some es → ∀ e ∈ es, e.Admits set

variable {e : LabelExpression} {r : Requirement} {set : Labels} {key value operator : String}
  {values : List String}

namespace Requirement

theorem holds_equals : (equals key value).holds set = true ↔ set.get? key = some value := by
  simp [holds]

theorem holds_isIn :
    (isIn key values).holds set = true ↔ ∃ v ∈ values, set.get? key = some v := by
  cases h : set.get? key <;> simp [holds, h]

theorem holds_notIn :
    (notIn key values).holds set = true ↔ ∀ v ∈ values, set.get? key ≠ some v := by
  cases h : set.get? key with
  | none => simp [holds, h]
  | some v => simp [holds, h, List.forall_mem_ne]

theorem holds_present : (present key).holds set = true ↔ ∃ v, set.get? key = some v := by
  simp [holds, Table.contains, Option.isSome_iff_exists]

theorem holds_absent : (absent key).holds set = true ↔ set.get? key = none := by
  simp [holds, Table.contains]

end Requirement

namespace Selector

theorem checkKey_eq_ok_iff : checkKey key = .ok () ↔ Label.QualifiedName key := by
  rw [checkKey, ← Label.keyFault?_eq_none_iff]
  split <;> simp_all

theorem checkValue_eq_ok_iff : checkValue key value = .ok () ↔ Label.Value value := by
  rw [checkValue, ← Label.isValue_iff]
  split <;> simp_all

inductive Asks (key : String) (values : List String) : String → Requirement → Prop
  | isIn (listed : values ≠ []) : Asks key values "In" (.isIn key values)
  | notIn (listed : values ≠ []) : Asks key values "NotIn" (.notIn key values)
  | present (unlisted : values = []) : Asks key values "Exists" (.present key)
  | absent (unlisted : values = []) : Asks key values "DoesNotExist" (.absent key)

theorem ofOperator_eq_ok_iff :
    ofOperator operator key values = .ok r ↔ Asks key values operator r := by
  constructor
  · intro h
    unfold ofOperator at h
    split at h
    · split at h
      · cases h
      · cases h
        exact .isIn (by simp_all)
    · split at h
      · cases h
      · cases h
        exact .notIn (by simp_all)
    · split at h
      · cases h
        exact .present (by simp_all)
      · cases h
    · split at h
      · cases h
        exact .absent (by simp_all)
      · cases h
    · cases h
  · rintro (listed | listed | unlisted | unlisted)
    · simp [ofOperator, listed]
    · simp [ofOperator, listed]
    · simp [ofOperator, unlisted]
    · simp [ofOperator, unlisted]

theorem exists_asks_iff : (∃ r, Asks e.key e.valueList e.operator r) ↔ e.IsApplied := by
  constructor
  · rintro ⟨r, asks⟩
    unfold LabelExpression.IsApplied
    generalize e.operator = operator at asks ⊢
    cases asks <;> simp [*]
  · unfold LabelExpression.IsApplied
    simp only [List.mem_cons, List.not_mem_nil, or_false]
    rintro (⟨eq | eq, listed⟩ | ⟨eq | eq, unlisted⟩)
    all_goals rw [eq]
    · exact ⟨_, .isIn listed⟩
    · exact ⟨_, .notIn listed⟩
    · exact ⟨_, .present unlisted⟩
    · exact ⟨_, .absent unlisted⟩

theorem Asks.holds_iff (asks : Asks e.key e.valueList e.operator r) :
    r.holds set = true ↔ e.Admits set := by
  rw [LabelExpression.admits_iff]
  generalize e.operator = operator at asks ⊢
  cases asks with
  | isIn => simp [Requirement.holds_isIn]
  | notIn => simp [Requirement.holds_notIn]
  | present => simp [Requirement.holds_present]
  | absent => simp [Requirement.holds_absent]

theorem ofExpression_eq_ok_iff : ofExpression e = .ok r ↔
    Label.QualifiedName e.key ∧ (∀ v ∈ e.valueList, Label.Value v) ∧
      Asks e.key e.valueList e.operator r := by
  change (checkKey e.key >>= fun _ => e.valueList.forM (checkValue e.key) >>= fun _ =>
    ofOperator e.operator e.key e.valueList) = _ ↔ _
  rw [seq_eq_ok_iff, seq_eq_ok_iff, checkKey_eq_ok_iff, forM_eq_ok_iff, ofOperator_eq_ok_iff]
  simp only [checkValue_eq_ok_iff]

theorem ofLabel_eq_ok_iff {l : String × String} : ofLabel l = .ok r ↔
    Label.QualifiedName l.1 ∧ Label.Value l.2 ∧ .equals l.1 l.2 = r := by
  change (checkKey l.1 >>= fun _ => checkValue l.1 l.2 >>= fun _ =>
    Except.ok (Requirement.equals l.1 l.2)) = _ ↔ _
  rw [seq_eq_ok_iff, seq_eq_ok_iff, checkKey_eq_ok_iff, checkValue_eq_ok_iff, Except.ok.injEq]

end Selector

namespace LabelSelector

open Selector

variable {s : LabelSelector} {selector : Selector}

theorem forall_mem_labelList {p : String × String → Prop} : (∀ l ∈ s.labelList, p l) ↔
    ∀ table, s.matchLabels = some table → ∀ l ∈ table.toList, p l := by
  rw [labelList]
  cases s.matchLabels <;> simp [Table.empty]

theorem forall_mem_expressionList {p : LabelExpression → Prop} : (∀ e ∈ s.expressionList, p e) ↔
    ∀ es, s.matchExpressions = some es → ∀ e ∈ es, p e := by
  rw [expressionList]
  cases s.matchExpressions <;> simp

theorem check_eq_ok_iff : s.check = .ok selector ↔ ∃ labels expressions,
    s.labelList.mapM ofLabel = .ok labels ∧
      s.expressionList.mapM ofExpression = .ok expressions ∧
      ⟨labels ++ expressions⟩ = selector := by
  change (s.labelList.mapM ofLabel >>= fun labels => s.expressionList.mapM ofExpression >>=
    fun expressions => Except.ok (Selector.mk (labels ++ expressions))) = _ ↔ _
  simp [bind_eq_ok_iff]

theorem exists_check_iff : (∃ selector, s.check = .ok selector) ↔ s.Sound := by
  have labels : (∃ rs, s.labelList.mapM ofLabel = .ok rs) ↔
      ∀ l ∈ s.labelList, Label.QualifiedName l.1 ∧ Label.Value l.2 := by
    simp only [exists_mapM_eq_ok_iff, ofLabel_eq_ok_iff, exists_and_left, exists_eq', and_true]
  have expressions : (∃ rs, s.expressionList.mapM ofExpression = .ok rs) ↔
      ∀ e ∈ s.expressionList, e.Sound := by
    simp only [exists_mapM_eq_ok_iff, ofExpression_eq_ok_iff, exists_and_left, exists_asks_iff,
      LabelExpression.sound_iff]
  rw [sound_iff, ← forall_mem_labelList, ← forall_mem_expressionList, ← labels, ← expressions]
  simp only [check_eq_ok_iff]
  constructor
  · rintro ⟨_, labels, expressions, first, second, -⟩
    exact ⟨⟨labels, first⟩, ⟨expressions, second⟩⟩
  · rintro ⟨⟨labels, first⟩, ⟨expressions, second⟩⟩
    exact ⟨_, labels, expressions, first, second, rfl⟩

theorem holds_iff_admits (checked : s.check = .ok selector) :
    (∀ r ∈ selector.requirements, r.holds set = true) ↔ s.Admits set := by
  obtain ⟨labels, expressions, first, second, rfl⟩ := check_eq_ok_iff.mp checked
  rw [admits_iff, ← forall_mem_labelList, ← forall_mem_expressionList, List.forall_mem_append]
  apply and_congr
  · symm
    apply forall_mem_mapM_iff first
    intro l r h
    obtain ⟨-, -, rfl⟩ := ofLabel_eq_ok_iff.mp h
    exact Requirement.holds_equals.symm
  · symm
    apply forall_mem_mapM_iff second
    intro e r h
    exact (ofExpression_eq_ok_iff.mp h).2.2.holds_iff.symm

theorem selects_iff_admits (checked : s.check = .ok selector) (labels : Option Labels) :
    selector.selects labels = true ↔ s.Admits (labels.getD .empty) := by
  rw [Selector.selects, List.all_eq_true, holds_iff_admits checked]

/-- A manifest's selector passes its check just when its keys, values and operators are as they have
to be, and then selects the label sets that have what it asks for. -/
theorem check_selects (s : LabelSelector) :
    ((∃ selector, s.check = .ok selector) ↔ s.Sound) ∧
      ∀ selector, s.check = .ok selector → ∀ labels : Option Labels,
        selector.selects labels = true ↔ s.Admits (labels.getD .empty) := by
  refine ⟨exists_check_iff, ?_⟩
  intro selector checked labels
  rw [Selector.selects, List.all_eq_true, holds_iff_admits checked]

def sample : LabelSelector where
  matchLabels := some (.ofList [("machine.openshift.io/cluster-api-cluster", "c1")])
  matchExpressions := some
    [⟨"role", "In", some ["worker", "infra"]⟩, ⟨"zone", "NotIn", some ["a", ""]⟩,
      ⟨"role", "Exists", none⟩, ⟨"excluded", "DoesNotExist", some []⟩]

/-- A label that is absent has none of the values, which is right for a zone and not for a role. -/
theorem sample_selects :
    ∃ selector, sample.check = .ok selector ∧
      sample.Admits
        (.ofList [("machine.openshift.io/cluster-api-cluster", "c1"), ("role", "infra")]) ∧
      ¬sample.Admits (.ofList [("machine.openshift.io/cluster-api-cluster", "c1")]) := by
  have checked : sample.check = .ok ⟨[
      .equals "machine.openshift.io/cluster-api-cluster" "c1", .isIn "role" ["worker", "infra"],
      .notIn "zone" ["a", ""], .present "role", .absent "excluded"]⟩ := by
    decide +kernel
  refine ⟨_, checked, ?_, ?_⟩
  · exact ((check_selects sample).2 _ checked (some _)).mp (by decide +kernel)
  · intro admits
    exact absurd (((check_selects sample).2 _ checked (some _)).mpr admits) (by decide +kernel)

end LabelSelector

end FleetHealth
