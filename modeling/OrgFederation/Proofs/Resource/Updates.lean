import Mathlib.Data.List.Induction
import OrgFederation.Proofs.Resource.Transitions
import OrgFederation.Proofs.Sequence

namespace OrgFederation

/-- An update records a condition, in place or in a chain of updates, or sets the generation. -/
inductive Status.Update where
  | record (condition : Condition)
  | generation (generation : Option Int)
  deriving DecidableEq, Repr

/-- The condition that an update records. -/
def Status.Update.condition? : Status.Update → Option Condition
  | .record condition => some condition
  | .generation _ => none

namespace Status

def apply (status : Status) : Update → Status
  | .record condition => status.record condition
  | .generation generation => status.atGeneration generation

/-- A status behind some updates. -/
def behind (start : Status) (updates : List Update) : Status :=
  updates.foldl apply start

/-- The conditions that are recorded, one after the other. -/
def recordings (updates : List Update) : List Condition :=
  updates.filterMap Update.condition?

def types (status : Status) : List ConditionType :=
  status.conditions.map Condition.type

/-- The conditions that a type has had: the stored one, and all that were recorded. -/
def history (start : Status) (updates : List Update) (type : ConditionType) : List Condition :=
  (start.condition? type).toList ++ (recordings updates).filter fun condition => condition.type = type

/-- A condition has a place among others: that of the first one of its type, or the last one. Every
other condition stays as it is. -/
inductive Placed (condition : Condition) : List Condition → List Condition → Prop
  | instead {before behind : List Condition} {held : Condition}
      (first : condition.type ∉ before.map Condition.type) (same : held.type = condition.type) :
      Placed condition (before ++ held :: behind) (before ++ condition.succeeding held :: behind)
  | last {conditions : List Condition} (new : condition.type ∉ conditions.map Condition.type) :
      Placed condition conditions (conditions ++ [condition])

/-- Recording a condition gives it its place. -/
theorem record_placed (status : Status) (condition : Condition) :
    Placed condition status.conditions (status.record condition).conditions := by
  rw [record]
  generalize status.conditions = conditions
  induction conditions with
  | nil => exact .last (by simp)
  | cons held rest ih =>
      rw [recordIn]
      by_cases same : held.type = condition.type
      · rw [if_pos same]
        exact @Placed.instead _ [] rest held (by simp) same
      · rw [if_neg same]
        have apart : condition.type ≠ held.type := Ne.symm same
        generalize recordIn condition rest = recorded at ih
        cases ih with
        | @instead before behind earlier first sameType =>
            exact @Placed.instead _ (held :: before) behind earlier (by simp [apart, first]) sameType
        | last new => exact .last (by simp [apart, new])

/-- A new type comes last, and no type goes. -/
theorem record_types (status : Status) (condition : Condition) :
    (status.record condition).types =
      if condition.type ∈ status.types then status.types else status.types ++ [condition.type] := by
  have placed := status.record_placed condition
  rw [types, types]
  generalize status.conditions = conditions at placed
  generalize (status.record condition).conditions = recorded at placed
  cases placed with
  | instead first same => simp [same]
  | last new => simp [new]

variable (start : Status) (updates : List Update)

theorem behind_append (update : Update) :
    start.behind (updates ++ [update]) = (start.behind updates).apply update := by
  simp [behind]

@[simp] theorem recordings_append (first second : List Update) :
    recordings (first ++ second) = recordings first ++ recordings second :=
  List.filterMap_append

@[simp] theorem recordings_record (condition : Condition) :
    recordings [.record condition] = [condition] := rfl

@[simp] theorem recordings_generation (generation : Option Int) :
    recordings [.generation generation] = [] := rfl

/-- The types in order of their first appearance: the stored ones, and those that are recorded. -/
def appearances : List ConditionType :=
  start.types ++ (((recordings updates).map Condition.type).removeAll start.types).eraseDups

theorem appearances_record (condition : Condition) :
    start.appearances (updates ++ [.record condition]) =
      if condition.type ∈ start.appearances updates then start.appearances updates
      else start.appearances updates ++ [condition.type] := by
  rw [appearances, recordings_append, recordings_record, List.map_append, List.removeAll,
    List.filter_append]
  by_cases stored : condition.type ∈ start.types
  · simp [appearances, List.removeAll, stored]
  · by_cases appeared : condition.type ∈ (recordings updates).map Condition.type
    · simp [appearances, List.removeAll, stored, eraseDups_concat, List.mem_map.mp appeared]
    · simp [appearances, List.removeAll, stored, eraseDups_concat, List.mem_map.not.mp appeared]

/-- The types of a status are those that have appeared, in their order. -/
theorem types_behind : (start.behind updates).types = start.appearances updates := by
  induction updates using List.reverseRecOn with
  | nil => simp [behind, appearances, recordings, List.removeAll]
  | append_singleton updates update ih =>
      rw [behind_append]
      cases update with
      | generation generation =>
          show (start.behind updates).types = _
          simp [ih, appearances]
      | record condition => rw [apply, record_types, ih, appearances_record]

theorem appearances_nodup (distinct : start.types.Nodup) : (start.appearances updates).Nodup := by
  rw [appearances, List.nodup_append]
  refine ⟨distinct, nodup_eraseDups _, fun stored among other recorded same => ?_⟩
  subst other
  simp [List.removeAll, among] at recorded

theorem history_append (first second : List Update) (type : ConditionType) :
    start.history (first ++ second) type = start.history first type ++
      (recordings second).filter fun condition => condition.type = type := by
  rw [history, history, recordings_append, List.filter_append, List.append_assoc]

/-- What a type has of its history: no condition when it never had one, and otherwise one that says
what the last one says and has the time of the first one in the last unbroken run of its status. -/
inductive Told : List Condition → Option Condition → Prop
  | never : Told [] none
  | since {earlier : List Condition} {last condition : Condition}
      (verdict : condition.verdict = last.verdict)
      (dated : condition.DatedBy ((earlier ++ [last]).map Condition.moment)) :
      Told (earlier ++ [last]) (some condition)

/-- A condition that is recorded is told by a history that it ends. -/
theorem Told.behind {history : List Condition} {held : Option Condition} (told : Told history held)
    (condition : Condition) : Told (history ++ [condition]) (some (condition.behind held)) := by
  cases told with
  | never => exact @Told.since [] condition condition rfl (.first condition)
  | @since earlier last held verdict dated =>
      refine .since (condition.succeeding_verdict held) ?_
      rw [List.map_append]
      exact dated.succeeding condition

/-- The condition of a type is told by all that the type has had. -/
theorem condition_behind (type : ConditionType) :
    Told (start.history updates type) ((start.behind updates).condition? type) := by
  induction updates using List.reverseRecOn with
  | nil =>
      show Told ((start.condition? type).toList ++ []) (start.condition? type)
      cases start.condition? type with
      | none => exact .never
      | some condition => exact @Told.since [] condition condition rfl (.first condition)
  | append_singleton updates update ih =>
      rw [behind_append, history_append]
      cases update with
      | generation generation =>
          rw [recordings_generation, List.filter_nil, List.append_nil]
          exact ih
      | record condition =>
          rw [apply, recordings_record]
          by_cases own : condition.type = type
          · subst own
            rw [record_condition_self]
            simpa using ih.behind condition
          · rw [record_condition_other _ own]
            simpa [own] using ih

/-- However a status is updated, its types stay in the order of their first appearance, each once if
that was so at the start; a further update leaves all but one condition, or all but the generation, as
they are; and the condition of every type is told by what the type has had. -/
theorem updates_tell_history :
    let status := start.behind updates
    (start.types.Nodup → status.types.Nodup) ∧ status.types = start.appearances updates ∧
    (∀ condition, (status.apply (.record condition)).observedGeneration = status.observedGeneration ∧
      Placed condition status.conditions (status.apply (.record condition)).conditions) ∧
    (∀ generation, (status.apply (.generation generation)).observedGeneration = generation ∧
      (status.apply (.generation generation)).conditions = status.conditions) ∧
    ∀ type, Told (start.history updates type) (status.condition? type) := by
  intro status
  have order : status.types = start.appearances updates := types_behind start updates
  refine ⟨fun distinct => ?_, order, fun condition => ⟨rfl, status.record_placed condition⟩,
    fun generation => ⟨rfl, rfl⟩, condition_behind start updates⟩
  rw [order]
  exact appearances_nodup start updates distinct

/-- A status of a resource that is not ready since a first moment. -/
def unsettled : Status :=
  ⟨some 1, [⟨.ready, .no, "Internal", "first", .ofSecond 10⟩]⟩

/-- The resource stays unready, federation is recorded in between, and then it is ready twice. -/
def settling : List Update :=
  [.record ⟨.ready, .no, "Internal", "second", .ofSecond 20⟩, .generation (some 2),
    .record ⟨.federatedAuthReady, .yes, "", "", .ofSecond 30⟩,
    .record ⟨.ready, .yes, "", "third", .ofSecond 40⟩,
    .record ⟨.ready, .yes, "", "fourth", .ofSecond 50⟩]

/-- The resource is ready since the first of the two moments, and says what was recorded last. -/
theorem updates_tell_history_settling :
    unsettled.types.Nodup ∧ (unsettled.behind settling).types.Nodup ∧
      (unsettled.behind settling).types = [.ready, .federatedAuthReady] ∧
      Told (unsettled.history settling .ready) ((unsettled.behind settling).condition? .ready) ∧
      (unsettled.behind settling).condition? .ready =
        some ⟨.ready, .yes, "", "fourth", .ofSecond 40⟩ := by
  have distinct : unsettled.types.Nodup := by decide
  obtain ⟨unique, -, -, -, told⟩ := updates_tell_history unsettled settling
  exact ⟨distinct, unique distinct, by decide, told .ready, by decide⟩

end Status

end OrgFederation
