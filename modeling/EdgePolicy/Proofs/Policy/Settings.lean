import EdgePolicy.Payload.Basic
import EdgePolicy.Proofs.Condition.Document
import EdgePolicy.Proofs.Json.Covers

/-
Cache parameters as the free parameters of a rule.

They are read back as they were written (`CacheParameters.ofJson?_free`).  A rule that covers wanted
parameters need not have them: covering looks only at what is wanted.  But the parameters that a
valid request sends leave nothing open (`CacheParameters.IsComplete`), so among them a rule covers
only its own (`CacheParameters.eq_of_covers`).
-/

set_option autoImplicit false
set_option relaxedAutoImplicit false

namespace EdgePolicy

open Json (Document Value Fields insertMember sortMembers)

namespace TtlSetting

def free (setting : TtlSetting) : Value := .record setting.members

/-- Seconds stand where the mode overrides the origin and nowhere else, and they are a word. -/
structure IsComplete (setting : TtlSetting) : Prop where
  overrides : setting.seconds.isSome = true ↔ setting.mode = overrideOrigin
  fits : ∀ seconds, setting.seconds = some seconds → seconds ≤ Text.maxWord64

private theorem free_eq (setting : TtlSetting) : setting.free =
    .object (Json.optionalMember "default" Value.natural setting.seconds
      ++ [("mode", .string setting.mode)]) := by
  have order : "default" < "mode" := by decide +kernel
  unfold free Value.record members
  cases setting.seconds <;>
    simp [Json.optionalMember, sortMembers, insertMember, order]

theorem natural?_natural {n : Nat} (fits : n ≤ Text.maxWord64) :
    Document.natural? Text.maxWord64 (Value.natural n).document = some n := by
  have within : (0 : Int) ≤ (n : Int) ∧ (n : Int) ≤ (Text.maxWord64 : Int) :=
    ⟨Int.natCast_nonneg n, Int.ofNat_le.mpr fits⟩
  simp [Document.natural?, Document.integer?, Value.natural, Value.document, within]

variable {setting held want : TtlSetting}

theorem ofJson?_free (complete : setting.IsComplete) :
    ofJson? setting.free.document = some setting := by
  obtain ⟨mode, seconds⟩ := setting
  unfold ofJson?
  rw [free_eq, Json.record?_object, List.map_append, Json.map_optionalMember]
  cases seconds with
  | none =>
    simp [Fields.required?, Fields.optional?, Fields.withDefault?, Fields.only?, Value.document,
      Document.string?]
  | some n =>
    have read := natural?_natural (complete.fits n rfl)
    have present : Document.orNull? (Document.natural? Text.maxWord64)
        (Value.natural n).document = some (some n) := congrArg (Option.map some) read
    simp [Fields.required?, Fields.optional?, Fields.withDefault?, Fields.only?, present,
      Document.string?, Value.document]

private theorem mode_of_covers (covers : held.free.covers want.free = true) :
    held.mode = want.mode := by
  obtain ⟨mode, seconds⟩ := held
  obtain ⟨mode', seconds'⟩ := want
  rw [free_eq, free_eq] at covers
  cases seconds <;> cases seconds' <;>
    simp [Json.optionalMember, Value.covers, Value.coversMembers, List.lookup_cons,
      Value.same] at covers
  · exact covers
  · exact covers
  · exact covers.2

private theorem seconds_of_covers (covers : held.free.covers want.free = true) {n : Nat}
    (wanted : want.seconds = some n) : held.seconds = some n := by
  obtain ⟨mode, seconds⟩ := held
  obtain ⟨mode', seconds'⟩ := want
  obtain rfl : seconds' = some n := wanted
  rw [free_eq, free_eq] at covers
  cases seconds with
  | none => simp [Json.optionalMember, Value.covers, Value.coversMembers, List.lookup_cons] at covers
  | some m =>
    simp [Json.optionalMember, Value.covers, Value.coversMembers, List.lookup_cons, Value.same,
      Value.natural, Json.Number.same] at covers
    have same := covers.1
    exact congrArg some (by omega)

/-- Complete settings cover only themselves. -/
theorem eq_of_covers (complete : held.IsComplete) (complete' : want.IsComplete)
    (covers : held.free.covers want.free = true) : held = want := by
  have modes := mode_of_covers covers
  have seconds : held.seconds = want.seconds := by
    cases wanted : want.seconds with
    | some n => exact seconds_of_covers covers wanted
    | none =>
      rw [← Option.not_isSome_iff_eq_none, complete.overrides, modes, ← complete'.overrides, wanted]
      exact Bool.false_ne_true
  cases held
  cases want
  cases modes
  cases seconds
  rfl

end TtlSetting

namespace CacheParameters

/-- Both settings stand where caching is on, and none where it is off. -/
inductive IsComplete : CacheParameters → Prop
  | off : IsComplete ⟨false, none, none⟩
  | on {browser edge : TtlSetting} (browserComplete : browser.IsComplete)
      (edgeComplete : edge.IsComplete) : IsComplete ⟨true, some browser, some edge⟩

private theorem free_eq (parameters : CacheParameters) : parameters.free =
    .object (Json.optionalMember "browser_ttl" TtlSetting.free parameters.browser
      ++ ("cache", .bool parameters.cache)
        :: Json.optionalMember "edge_ttl" TtlSetting.free parameters.edge) := by
  have order : ¬ "cache" < "browser_ttl" ∧ "browser_ttl" < "cache" ∧ ¬ "edge_ttl" < "browser_ttl" ∧
      ¬ "edge_ttl" < "cache" := by decide +kernel
  unfold free Value.record members
  cases parameters.browser <;> cases parameters.edge <;>
    simp [Json.optionalMember, sortMembers, insertMember, order, TtlSetting.free, Value.record]

variable {parameters held want : CacheParameters}

/-- Complete parameters are read back as they were written. -/
theorem ofJson?_free (complete : parameters.IsComplete) :
    ofJson? parameters.free.document = some parameters := by
  unfold ofJson?
  rw [free_eq, Json.record?_object]
  cases complete with
  | off =>
    simp [Json.optionalMember, Fields.required?, Fields.optional?, Fields.withDefault?,
      Fields.only?, Value.document, Document.bool?]
  | @on browser edge browserComplete edgeComplete =>
    have present : ∀ setting : TtlSetting, setting.IsComplete →
        Document.orNull? TtlSetting.ofJson? setting.free.document = some (some setting) := by
      intro setting complete
      have read := TtlSetting.ofJson?_free complete
      rw [TtlSetting.free_eq] at read ⊢
      exact congrArg (Option.map some) read
    simp [Json.optionalMember, Fields.required?, Fields.optional?, Fields.withDefault?,
      Fields.only?, Value.document, Document.bool?, present browser browserComplete,
      present edge edgeComplete]

/-- Complete parameters cover only themselves. -/
theorem eq_of_covers (complete : held.IsComplete) (complete' : want.IsComplete)
    (covers : held.free.covers want.free = true) : held = want := by
  rw [free_eq, free_eq] at covers
  cases complete with
  | off =>
    cases complete' with
    | off => rfl
    | on browserComplete edgeComplete =>
      simp [Json.optionalMember, Value.covers, Value.coversMembers, List.lookup_cons] at covers
  | @on browser edge browserComplete edgeComplete =>
    cases complete' with
    | off =>
      simp [Json.optionalMember, Value.covers, Value.coversMembers, List.lookup_cons, Value.same]
        at covers
    | @on browser' edge' browserComplete' edgeComplete' =>
      simp [Json.optionalMember, Value.covers, Value.coversMembers, List.lookup_cons, Value.same]
        at covers
      rw [TtlSetting.eq_of_covers browserComplete browserComplete' covers.1,
        TtlSetting.eq_of_covers edgeComplete edgeComplete' covers.2]

end CacheParameters

end EdgePolicy
