import OrgFederation.Pass.Convergence
import OrgFederation.Proofs.Json.MergePatch
import OrgFederation.Proofs.Resource.Generation
import OrgFederation.Proofs.Resource.Verdict
import OrgFederation.Proofs.Resource.Written
import OrgFederation.Reconciliation.Run

namespace OrgFederation

open Json (nodesOf nodes mergePatch mergeMembers)

namespace Status

/-- What is written of a status with conditions. -/
theorem encode_filled {status : Status} (filled : status.conditions ≠ []) :
    fields.encode status.parts =
      (status.observedGeneration.map fun generation =>
        ("observedGeneration", Json.ofInt generation)).toList ++
        [("conditions", Condition.codec.list.encode status.conditions)] := by
  rcases status with ⟨generation, conditions⟩
  cases conditions with
  | nil => exact absurd rfl filled
  | cons condition rest => cases generation <;> rfl

/-- What stored members hold under the two names once a status is merged into them. -/
theorem nodesOf_merged {status : Status} (filled : status.conditions ≠ [])
    (members : List (String × Json)) :
    let merged := mergeMembers members (fields.encode status.parts)
    nodesOf "observedGeneration" (nodes merged) =
        (match status.observedGeneration with
          | some generation => [.ofJson (.ofInt generation)]
          | none => nodesOf "observedGeneration" (nodes members)) ∧
      nodesOf "conditions" (nodes merged) =
        [.ofJson (Condition.codec.list.encode status.conditions)] := by
  intro merged
  have distinct : ((fields.encode status.parts).map Prod.fst).Nodup :=
    (Json.Fields.encode_names_sublist status.parts).nodup (by decide)
  have whole : ∀ member ∈ fields.encode status.parts, member.2.isNull = false := by
    rw [encode_filled filled]
    cases status.observedGeneration <;> simp [Json.isNull, Json.ofInt, Json.Codec.list]
  simp only [merged, Json.nodesOf_mergeMembers distinct whole]
  rw [encode_filled filled]
  cases status.observedGeneration <;> exact ⟨rfl, rfl⟩

/-- A status that is merged into what is stored is read back, with the generation stored from before
if it has none. -/
theorem decode_mergePatch {status : Status} (dated : status.Dated) (hasWord : status.HasWord)
    (filled : status.conditions ≠ []) {held : Json} {kept : Option Int} {depth : Nat}
    (room : 3 < depth)
    (reads : (Json.Field.optional "observedGeneration" .int64).Reads (depth - 1)
      (nodesOf "observedGeneration" (nodes held.members)) kept) :
    codec.decode depth (.ofJson (mergePatch held (codec.encode status))) =
      .ok (status.atGeneration (status.observedGeneration <|> kept)) := by
  obtain ⟨generation, conditions⟩ := nodesOf_merged filled held.members
  have conditionsRead : Condition.codec.list.decode (depth - 1)
      (.ofJson (Condition.codec.list.encode status.conditions)) = .ok status.conditions :=
    Json.Codec.list_survives_exact (fun condition listed => Condition.codec_survives
      (dated condition listed)) (by omega) rfl
  have generationRead : (Json.Field.optional "observedGeneration" .int64).Reads (depth - 1)
      (nodesOf "observedGeneration" (nodes (mergeMembers held.members (fields.encode status.parts))))
      (status.observedGeneration <|> kept) := by
    rw [generation]
    -- A patch without generation leaves the stored one, and one with a generation replaces it.
    cases told : status.observedGeneration with
    | none => exact reads
    | some generation =>
        obtain ⟨least, greatest⟩ := hasWord generation told
        exact .held (Json.Codec.optional_survives Json.Codec.integer_refusesNull
          (Json.Codec.integer_survives least greatest) (by omega) rfl)
  have merges : mergePatch held (codec.encode status) =
      .object (mergeMembers held.members (fields.encode status.parts)) := rfl
  rw [merges]
  refine (Json.Fields.codec_decode_ofJson_eq_ok_iff (by decide)).mpr
    ⟨by omega, (status.observedGeneration <|> kept, status.conditions, ()),
      ⟨generationRead, ?_, trivial⟩, rfl⟩
  exact conditions ▸ .held conditionsRead

/-- Wherever a stored status decodes, so does the generation that it tells; what is no object tells
none. -/
theorem exists_kept {depth : Nat} {held : Json} {status : Option Status}
    (decodes : codec.optional.decode depth (.ofJson held) = .ok status) :
    ∃ kept, (Json.Field.optional "observedGeneration" .int64).Reads (depth - 1)
      (nodesOf "observedGeneration" (nodes held.members)) kept := by
  cases held with
  | object members =>
      obtain ⟨status, inner, -⟩ := Json.map_eq_ok_iff.mp decodes
      obtain ⟨-, values, reads, -⟩ :=
        (Json.Fields.codec_decode_ofJson_eq_ok_iff (by decide)).mp inner
      exact ⟨values.1, reads.1⟩
  | _ => exact ⟨none, .absent rfl⟩

end Status

namespace FederatedAuth

/-- A stored resource tells a generation for which its status was computed. -/
def TellsGeneration (stored : Json) : Prop :=
  ∃ value, (stored.member? "status").bind (Json.member? "observedGeneration") = some value ∧
    value ≠ .null

/-- No generation is kept exactly when none is told. -/
theorem kept_eq_none_iff {members : List (String × Json)} {depth : Nat} {kept : Option Int}
    (reads : (Json.Field.optional "observedGeneration" .int64).Reads depth
      (nodesOf "observedGeneration" (nodes ((members.lookup "status").getD .null).members)) kept) :
    kept = none ↔ ¬TellsGeneration (.object members) := by
  have told : (Json.member? "status" (.object members)).bind (Json.member? "observedGeneration") =
      ((members.lookup "status").getD .null).members.lookup "observedGeneration" := by
    rw [Json.member?]
    cases members.lookup "status" with
    | none => rfl
    | some held => cases held <;> rfl
  rw [Json.Codec.optional_eq_none_iff (reads.member rfl rfl), TellsGeneration, told]
  cases ((members.lookup "status").getD .null).members.lookup "observedGeneration" with
  | none => simp [Json.Node.ofJson]
  | some held => cases held <;> simp [Json.Node.ofJson]

/-- A stored resource decodes exactly when its fields read it from the nodes of the members. -/
theorem decode_eq_ok_iff {members : List (String × Json)} {resource : FederatedAuth} :
    codec.decode Json.startDepth (.ofJson (.object members)) = .ok resource ↔
      fields.Reads (Json.startDepth - 1) (nodes members) resource.parts := by
  have fromMap : codec.decode Json.startDepth (.ofJson (.object members)) =
      recordCodec.decode Json.startDepth (.ofJson (.object members)) := rfl
  rw [fromMap, recordCodec, Json.Fields.codec_decode_ofJson_eq_ok_iff (by decide)]
  constructor
  · rintro ⟨-, values, reads, rfl⟩
    exact reads
  · exact fun reads => ⟨by decide, _, reads, rfl⟩

/-- A merged patch of a status leaves metadata and declaration as they are, and the status as it was
patched with the generation stored from before if it has none. -/
theorem exists_patched {members : List (String × Json)} {resource : FederatedAuth}
    (stored : codec.decode Json.startDepth (.ofJson (.object members)) = .ok resource)
    (outcome : Outcome) {now : Timestamp} (valid : now.Valid) (namespaceName name : String) :
    let computed := resource.statusAfter outcome now
    ∃ kept, (kept = none ↔ ¬TellsGeneration (.object members)) ∧
      codec.decode Json.startDepth (.ofJson (mergePatch (.object members)
        (StatusPatch.body ⟨namespaceName, name, computed⟩))) =
        .ok ⟨resource.metadata, resource.spec,
          some (computed.atGeneration (resource.metadata.generation <|> kept))⟩ := by
  intro computed
  have reads := decode_eq_ok_iff.mp stored
  have hasWord : computed.HasWord :=
    (Json.Fields.give_of_reads reads).1.of_required Metadata.generation_yields
  obtain ⟨metadata, spec, status, -⟩ := reads
  have held := status.member rfl rfl
  obtain ⟨kept, keptReads⟩ := Status.exists_kept held
  have dated : computed.Dated :=
    statusAfter_dated (Json.Codec.optional_yields Status.codec_yields held) outcome valid
  have filled : computed.conditions ≠ [] := Status.record_conditions_ne_nil _ _
  have written := Status.decode_mergePatch dated hasWord filled (by decide) keptReads
  refine ⟨kept, kept_eq_none_iff keptReads, ?_⟩
  have merges : mergePatch (.object members) (StatusPatch.body ⟨namespaceName, name, computed⟩) =
      .object (mergeMembers members [("status", Status.codec.encode computed)]) := rfl
  have distinct : ([("status", Status.codec.encode computed)].map Prod.fst).Nodup := by simp
  have whole : ∀ member ∈ [("status", Status.codec.encode computed)], member.2.isNull = false := by
    simp [Json.isNull, Status.codec, Json.Fields.codec]
  -- The patch names the status alone, so metadata and declaration are read from what was stored.
  have merged := Json.nodesOf_mergeMembers distinct whole members
  rw [merges]
  refine decode_eq_ok_iff.mpr ⟨(merged "metadata") ▸ metadata, (merged "spec") ▸ spec, ?_, trivial⟩
  have taken : Status.codec.optional.decode (Json.startDepth - 1)
      (.ofJson (mergePatch ((members.lookup "status").getD .null) (Status.codec.encode computed))) =
        .ok (some (computed.atGeneration (computed.observedGeneration <|> kept))) :=
    Json.map_eq_ok_iff.mpr ⟨_, written, rfl⟩
  exact (merged "status") ▸ .held taken

/-- A status keeps a generation from before exactly when this differs from its own. -/
theorem atGeneration_orElse_iff {status : Status} {generation kept : Option Int}
    (ofStatus : status.observedGeneration = generation) :
    status.atGeneration (generation <|> kept) = status ↔ generation.isSome ∨ kept = none := by
  rcases status with ⟨observed, conditions⟩
  cases ofStatus
  cases observed <;> cases kept <;> simp [Status.atGeneration]

/-- An outcome that comes again leaves its status as it is exactly when it was stored for the
generation for which it was computed. -/
theorem statusAfter_again_iff (later : FederatedAuth) {computed : Status} {generation : Option Int}
    {outcome : Outcome} (held : later.status = some (computed.atGeneration generation))
    (records : computed.Records later.metadata.generation outcome.verdict) (time : Timestamp) :
    later.status = some (later.statusAfter outcome time) ↔ later.status = some computed := by
  constructor
  · intro unchanged
    have same : computed.atGeneration generation = later.statusAfter outcome time :=
      Option.some.inj (held.symm.trans unchanged)
    have told : generation = later.metadata.generation :=
      (congrArg Status.observedGeneration same).trans
        (later.statusAfter_records outcome time).generation
    rw [held, told, ← records.generation]
    rfl
  · intro same
    rw [statusAfter_of_records same records time]
    exact same

end FederatedAuth

namespace Reconciliation

/-- No patch is sent exactly when the status says already what is to be recorded. -/
theorem recordOutcome_patch_none_iff {σ : Type} (surroundings : Surroundings σ)
    (intervals : Intervals) (now : Timestamp) (namespaceName : String) (resource : FederatedAuth)
    (outcome : Outcome) (trace : Trace σ) :
    (recordOutcome surroundings intervals now namespaceName resource outcome trace).patch = none ↔
      resource.status = some (resource.statusAfter outcome now) := by
  simp only [recordOutcome]
  split
  · next same => simp [withoutPatch, same]
  · next differs =>
      split <;> simp [differs]

end Reconciliation

namespace FederatedAuth

/-- A status that is patched into a stored resource is then stored exactly, and the same outcome
leaves nothing to patch, if and only if the resource has a generation or none is told by what was
stored. Metadata and declaration stay in any case. -/
theorem stored_as_patched_iff {members : List (String × Json)} {resource : FederatedAuth}
    (stored : codec.decode Json.startDepth (.ofJson (.object members)) = .ok resource)
    (outcome : Outcome) {now : Timestamp} (valid : now.Valid) (namespaceName name : String) :
    let computed := resource.statusAfter outcome now
    let patched := mergePatch (.object members) (StatusPatch.body ⟨namespaceName, name, computed⟩)
    ∃ later, codec.decode Json.startDepth (.ofJson patched) = .ok later ∧
      later.metadata = resource.metadata ∧ later.spec = resource.spec ∧
      (later.status = some computed ↔
        resource.metadata.generation.isSome ∨ ¬TellsGeneration (.object members)) ∧
      ∀ {σ : Type} (surroundings : Surroundings σ) (intervals : Intervals) (time : Timestamp)
        (trace : Trace σ),
        (Reconciliation.recordOutcome surroundings intervals time namespaceName later outcome
          trace).patch = none ↔
          resource.metadata.generation.isSome ∨ ¬TellsGeneration (.object members) := by
  intro computed patched
  obtain ⟨kept, untold, decodes⟩ := exists_patched stored outcome valid namespaceName name
  have records := resource.statusAfter_records outcome now
  have exact_iff : some (computed.atGeneration (resource.metadata.generation <|> kept)) =
      some computed ↔
        resource.metadata.generation.isSome ∨ ¬TellsGeneration (.object members) := by
    rw [Option.some.injEq, atGeneration_orElse_iff records.generation, untold]
  refine ⟨_, decodes, rfl, rfl, exact_iff, fun surroundings intervals time trace => ?_⟩
  rw [Reconciliation.recordOutcome_patch_none_iff, ← exact_iff]
  exact statusAfter_again_iff ⟨resource.metadata, resource.spec, some _⟩ rfl records time

/-- A stored resource whose status was computed for the third generation. -/
def storedForThird (generation : Option Int) : Json :=
  .object [("metadata", .object
      ([("name", .string "federation"), ("namespace", .string "team")] ++
        (generation.map fun value => ("generation", Json.ofInt value)).toList)),
    ("spec", .object [("connectionSecretRef", .object [("name", .string "secret")])]),
    ("status", .object [("observedGeneration", .ofInt 3), ("phase", .string "old"),
      ("conditions", .array [.object [("type", .string "Ready"), ("status", .string "False"),
        ("lastTransitionTime", .string "2024-05-01T12:00:00+02:00")]])])]

/-- In the fourth generation the patched status is stored exactly. -/
theorem stored_as_patched_fourth :
    let outcome : Outcome := .settled (some Convergence.notEnabled)
    let now := Timestamp.ofSecond 1714564800
    ∃ resource later : FederatedAuth,
      codec.decode Json.startDepth (.ofJson (storedForThird (some 4))) = .ok resource ∧
      codec.decode Json.startDepth (.ofJson (mergePatch (storedForThird (some 4))
        (StatusPatch.body ⟨"team", "federation", resource.statusAfter outcome now⟩))) = .ok later ∧
      later.status = some (resource.statusAfter outcome now) := by
  intro outcome now
  obtain ⟨resource, stored, fourth⟩ : ∃ resource,
      codec.decode Json.startDepth (.ofJson (storedForThird (some 4))) = .ok resource ∧
        resource.metadata.generation = some 4 := Json.exists_ok_of_seen (by decide +kernel)
  have valid : now.Valid := ⟨by decide, by decide, by decide, by decide⟩
  obtain ⟨later, decodes, -, -, same, -⟩ :=
    stored_as_patched_iff stored outcome valid "team" "federation"
  exact ⟨resource, later, stored, decodes, same.mpr (.inl (fourth ▸ rfl))⟩

/-- Without a generation the third one stays in the stored status, which is not the one computed, and
the same outcome is patched again. -/
theorem stale_generation_stays :
    let outcome : Outcome := .settled (some Convergence.notEnabled)
    let now := Timestamp.ofSecond 1714564800
    ∃ resource later : FederatedAuth,
      codec.decode Json.startDepth (.ofJson (storedForThird none)) = .ok resource ∧
      codec.decode Json.startDepth (.ofJson (mergePatch (storedForThird none)
        (StatusPatch.body ⟨"team", "federation", resource.statusAfter outcome now⟩))) = .ok later ∧
      later.status ≠ some (resource.statusAfter outcome now) ∧
      later.status ≠ some (later.statusAfter outcome (.ofSecond 1714565100)) := by
  intro outcome now
  obtain ⟨resource, stored, without⟩ : ∃ resource,
      codec.decode Json.startDepth (.ofJson (storedForThird none)) = .ok resource ∧
        resource.metadata.generation = none := Json.exists_ok_of_seen (by decide +kernel)
  have valid : now.Valid := ⟨by decide, by decide, by decide, by decide⟩
  have told : TellsGeneration (storedForThird none) := ⟨.ofInt 3, rfl, nofun⟩
  obtain ⟨kept, untold, decodes⟩ := exists_patched stored outcome valid "team" "federation"
  have records := resource.statusAfter_records outcome now
  have differs : some ((resource.statusAfter outcome now).atGeneration
      (resource.metadata.generation <|> kept)) ≠ some (resource.statusAfter outcome now) := by
    rw [ne_eq, Option.some.injEq, atGeneration_orElse_iff records.generation, untold, without]
    rintro (given | silent)
    · cases given
    · exact silent told
  refine ⟨resource, _, stored, decodes, differs, ?_⟩
  rw [ne_eq, statusAfter_again_iff ⟨_, _, some _⟩ rfl records]
  exact differs

end FederatedAuth

end OrgFederation
