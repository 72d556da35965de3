import ClaimOperator.Cluster.ApiStore
import ClaimOperator.Proofs.Json.Overlay

/-! Documents that can be written. Objects have no numbers, so only those of other clients can stand in the way. -/

set_option autoImplicit false

namespace ClaimOperator.Cluster

open Json (overlay overlayFields Fields)

section Lists

theorem haveWritableValues_put {fields : Fields} {key : String} {value : Json}
    (lower : haveWritableValues fields = true) (upper : isWritable value = true) :
    haveWritableValues (fields.put key value) = true := by
  induction fields with
  | nil => simp [Fields.put, haveWritableValues, upper]
  | cons field rest ih =>
    obtain ⟨name, current⟩ := field
    simp only [haveWritableValues, Bool.and_eq_true] at lower
    by_cases same : name = key
    · simp [Fields.put, same, haveWritableValues, upper, lower.2]
    · simp [Fields.put, same, haveWritableValues, lower.1, ih lower.2]

theorem isWritable_of_get? {fields : Fields} {key : String} {value : Json}
    (whole : haveWritableValues fields = true) (found : fields.get? key = some value) : isWritable value = true := by
  induction fields with
  | nil => cases found
  | cons field rest ih =>
    obtain ⟨name, current⟩ := field
    simp only [haveWritableValues, Bool.and_eq_true] at whole
    by_cases same : name = key
    · simp only [Fields.get?, same, if_true, Option.some.injEq] at found
      exact found ▸ whole.1
    · simp only [Fields.get?, same, if_false] at found
      exact ih whole.2 found

theorem areWritable_map {α : Type} {write : α → Json} (writable : ∀ item, isWritable (write item) = true)
    (items : List α) : areWritable (items.map write) = true := by
  induction items with
  | nil => rfl
  | cons item rest ih => simp [areWritable, writable, ih]

end Lists

mutual

theorem isWritable_overlay (base upper : Json) (lower : isWritable base = true) (above : isWritable upper = true) :
    isWritable (overlay base upper) = true := by
  cases upper with
  | object fields =>
    cases base with
    | object below =>
      simp only [Json.overlay_object, isWritable] at lower above ⊢
      exact haveWritableValues_overlayFields below fields lower above
    | _ => rwa [Json.overlay_of_not_object (fun ⟨_, same⟩ => nomatch same)]
  | _ => rwa [Json.overlay_of_flat (fun ⟨_, same⟩ => nomatch same)]

theorem haveWritableValues_overlayFields : (below fields : List (String × Json)) →
    haveWritableValues below = true → haveWritableValues fields = true →
    haveWritableValues (overlayFields below fields) = true
  | below, [], lower, _ => by rwa [Json.overlayFields_nil]
  | below, (key, value) :: rest, lower, above => by
    simp only [haveWritableValues, Bool.and_eq_true] at above
    rw [Json.overlayFields_cons]
    refine haveWritableValues_overlayFields _ rest (haveWritableValues_put lower ?_) above.2
    cases found : Fields.get? below key with
    | none => exact above.1
    | some current => exact isWritable_overlay current value (isWritable_of_get? lower found) above.1

end

section Manifests

theorem isWritable_encode {kind : Kind} (object : Object kind) : isWritable (Manifest.encode object) = true := by
  obtain ⟨⟨key, finalizers, deletionTime, version⟩, spec, status⟩ := object
  have texts : areWritable (finalizers.map .string) = true := areWritable_map (fun _ => rfl) finalizers
  have metadata : isWritable (Manifest.encodeMetadata ⟨key, finalizers, deletionTime, version⟩) = true := by
    cases deletionTime <;> cases version <;>
      simp [Manifest.encodeMetadata, Manifest.encodeTimestamp, Manifest.present, isWritable, haveWritableValues, texts]
  have body : isWritable (Manifest.encodeSpec spec) = true := by cases kind <;> rfl
  have state : isWritable (Manifest.encodeStatus status) = true := by
    cases kind with
    | reference => rfl
    | claim =>
      obtain ⟨phase, conditions⟩ := status
      cases conditions with
      | none => rfl
      | some conditions =>
        have listed : areWritable (conditions.map Manifest.encodeCondition) = true :=
          areWritable_map (fun _ => rfl) conditions
        simp [Manifest.encodeStatus, Manifest.encodeClaimStatus, Manifest.present, isWritable, haveWritableValues, listed]
  simp [Manifest.encode, Manifest.encodeFields, isWritable, haveWritableValues, metadata, body, state]

end Manifests

end ClaimOperator.Cluster
