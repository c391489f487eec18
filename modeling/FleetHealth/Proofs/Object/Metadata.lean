import FleetHealth.Object.Metadata
import FleetHealth.Proofs.Object.Shape

namespace FleetHealth

open Json RawJson
open Shape (field)

theorem stable_texts : Stable readTexts? writeTexts := stable_str.map

theorem stable_instant : Stable readInstant? fun t => .str (t.render "Z") := by
  constructor
  · intro j t got
    rw [ofJson, readInstant?, str?, Option.bind_eq_bind, Option.bind_some, Instant.parse?_render]
  · intro j t _ _
    exact Json.noConfusion

theorem orElse_text {source target : RawJson.Fields} {name s : String}
    (got : source.orElse name "" str? = some s) (holds : target.Holds name (some (.str s))) :
    target.orElse name "" str? = some s :=
  stable_str.orElse rfl Json.noConfusion got holds

theorem OwnerReference.stable : Stable read? write := by
  refine Stable.of_record (fun _ => by simp) ?_
  intro j o got fields holds
  simp only [read?, Option.bind_eq_bind, Option.bind_eq_some_iff, Option.pure_def,
    Option.some.injEq] at got
  obtain ⟨source, -, kind, gotKind, name, gotName, uid, gotUid, apiVersion, gotVersion,
    controller, gotController, blocks, gotBlocks, rfl⟩ := got
  simp only [List.forall_mem_cons] at holds
  obtain ⟨version, blocksHeld, controllerHeld, kindHeld, nameHeld, uidHeld, -⟩ := holds
  rw [read?, fields?]
  simp only [Option.bind_eq_bind, Option.bind_some, Option.pure_def,
    orElse_text gotKind kindHeld, orElse_text gotName nameHeld, orElse_text gotUid uidHeld,
    orElse_text gotVersion version, stable_bool.optional gotController controllerHeld,
    stable_bool.optional gotBlocks blocksHeld]

theorem LabelExpression.stable : Stable read? write := by
  refine Stable.of_record (fun _ => by simp) ?_
  intro j e got fields holds
  simp only [read?, Option.bind_eq_bind, Option.bind_eq_some_iff, Option.pure_def,
    Option.some.injEq] at got
  obtain ⟨source, -, key, gotKey, operator, gotOperator, values, gotValues, rfl⟩ := got
  simp only [List.forall_mem_cons] at holds
  obtain ⟨keyHeld, operatorHeld, valuesHeld, -⟩ := holds
  rw [read?, fields?]
  simp only [Option.bind_eq_bind, Option.bind_some, Option.pure_def,
    orElse_text gotKey keyHeld, orElse_text gotOperator operatorHeld,
    stable_str.list.optional gotValues valuesHeld]

theorem LabelSelector.stable : Stable read? write := by
  refine Stable.of_record (fun _ => by simp) ?_
  intro j s got fields holds
  simp only [read?, Option.bind_eq_bind, Option.bind_eq_some_iff, Option.pure_def,
    Option.some.injEq] at got
  obtain ⟨source, -, labels, gotLabels, expressions, gotExpressions, rfl⟩ := got
  simp only [List.forall_mem_cons] at holds
  obtain ⟨expressionsHeld, labelsHeld, -⟩ := holds
  rw [read?, fields?]
  simp only [Option.bind_eq_bind, Option.bind_some, Option.pure_def,
    stable_texts.optional gotLabels labelsHeld,
    LabelExpression.stable.list.optional gotExpressions expressionsHeld]

namespace Metadata

/-- The metadata as it is after it was written and read: created at a whole second. -/
def inWholeSeconds (m : Metadata) : Metadata :=
  { m with created := m.created.map Instant.wholeSeconds }

theorem optional_created {fields : RawJson.Fields} {created : Option Instant}
    (holds : fields.Holds "creationTimestamp" (created.map fun t => .str t.renderSeconds)) :
    fields.optional "creationTimestamp" readInstant? =
      some (created.map Instant.wholeSeconds) := by
  cases created with
  | none => exact Fields.optional_of_holds_none holds
  | some t =>
    apply Fields.optional_of_holds_some holds Json.noConfusion
    rw [ofJson, readInstant?, str?, Option.bind_eq_bind, Option.bind_some,
      Instant.parse?_renderSeconds]

theorem stable_otherFields : ∀ field ∈ otherFields, Shape.StableField field := by
  apply Shape.stableFields_of_sound
  simp [otherFields, managedFields, field, Shape.Sound, Shape.SoundFields, Shape.FitsAlways]

def ownParts (m : Metadata) : List (String × Option Json) := [
  ("annotations", m.annotations.map writeTexts),
  ("creationTimestamp", m.created.map fun t => .str t.renderSeconds),
  ("generateName", m.generateName.map .str),
  ("labels", m.labels.map writeTexts),
  ("name", m.name.map .str),
  ("namespace", m.ns.map .str),
  ("ownerReferences", m.ownerReferences.map fun os => .arr (os.map OwnerReference.write)),
  ("resourceVersion", m.resourceVersion.map .str)]

def parts (m : Metadata) : List (String × Option Json) :=
  m.ownParts ++ m.other.map fun e => (e.1, some e.2)

theorem nodup_names (m : Metadata) :
    (m.ownParts.map Prod.fst ++ otherFields.map Prod.fst).Nodup := by
  simp [ownParts, otherFields, field]

section Other

variable {source : RawJson.Fields} {m : Metadata}

theorem nodup_parts (got : Shape.normalFields? otherFields source = some m.other) :
    (m.parts.map Prod.fst).Nodup := by
  have names := (Shape.names_of_normalFields? got).append_left (m.ownParts.map Prod.fst)
  apply List.Sublist.nodup ?_ (nodup_names m)
  simpa [parts, Function.comp_def] using names

theorem other_reread (got : Shape.normalFields? otherFields source = some m.other) :
    Shape.normalFields? otherFields (recordFields m.parts) = some m.other := by
  have names := nodup_names m
  apply Shape.normalFields?_reread names.of_append_right stable_otherFields got
  intro field mem
  apply holds_lookup (nodup_parts got)
  intro own
  exact List.disjoint_of_nodup_append names own (List.mem_map_of_mem mem)

end Other

theorem read?_write {j : RawJson} {m : Metadata} (got : read? j = some m) :
    read? (ofJson m.write) = some m.inWholeSeconds := by
  simp only [read?, Option.bind_eq_bind, Option.bind_eq_some_iff, Option.pure_def,
    Option.some.injEq] at got
  obtain ⟨source, -, name, gotName, generateName, gotGenerateName, ns, gotNamespace, labels,
    gotLabels, annotations, gotAnnotations, owners, gotOwners, version, gotVersion, created, -,
    other, gotOther, same⟩ := got
  have gotOther : Shape.normalFields? otherFields source = some m.other := by
    rw [← same]
    exact gotOther
  have holds := holds_recordFields (nodup_parts gotOther)
  have otherAgain := other_reread gotOther
  have written : ofJson m.write = obj (recordFields m.parts) := rfl
  generalize recordFields m.parts = fields at holds otherAgain written
  subst same
  simp only [parts, ownParts, List.forall_mem_append, List.forall_mem_cons] at holds
  obtain ⟨⟨annotationsHeld, createdHeld, generateNameHeld, labelsHeld, nameHeld, namespaceHeld,
    ownersHeld, versionHeld, -⟩, -⟩ := holds
  rw [written, read?, fields?]
  simp only [Option.bind_eq_bind, Option.bind_some, Option.pure_def, inWholeSeconds, otherAgain,
    stable_str.optional gotName nameHeld, stable_str.optional gotGenerateName generateNameHeld,
    stable_str.optional gotNamespace namespaceHeld, stable_texts.optional gotLabels labelsHeld,
    stable_texts.optional gotAnnotations annotationsHeld,
    OwnerReference.stable.list.optional gotOwners ownersHeld,
    stable_str.optional gotVersion versionHeld, optional_created createdHeld]

theorem required_reread {source target : RawJson.Fields} {m : Metadata}
    (got : source.required "metadata" read? = some m)
    (holds : target.Holds "metadata" (some m.write)) :
    target.required "metadata" read? = some m.inWholeSeconds := by
  obtain ⟨j, got⟩ := Fields.exists_of_required got
  exact Fields.required_of_holds holds (read?_write got)

theorem write_inWholeSeconds (m : Metadata) : m.inWholeSeconds.write = m.write := by
  simp [write, inWholeSeconds, Function.comp_def]

end Metadata

end FleetHealth
