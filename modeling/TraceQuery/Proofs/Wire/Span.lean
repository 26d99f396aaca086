import TraceQuery.Proofs.Wire.Request
import TraceQuery.Wire.Span

/-!
Spans and pages of spans are read again from where they are written. Their attributes are the only
part that may nest as deep as it likes.
-/

set_option autoImplicit false
namespace TraceQuery

open Json (Decoder)
open Json.Decoder (Rereads rereads_string rereads_uint32 rereads_uint64 rereads_int32
  rereads_members record_null)
open Json.Decoder (Fields)

/-! ## Values that stand for what is left out -/

theorem readsWithin_zero_uint32 (height : Nat) : Decoder.uint32.ReadsWithin height 0 :=
  ⟨0, .numeral ⟨false, ['0'], [], none⟩, Nat.zero_le _, rfl, by decide⟩

theorem readsWithin_zero_uint64 (height : Nat) : Decoder.uint64.ReadsWithin height 0 :=
  ⟨0, .numeral ⟨false, ['0'], [], none⟩, Nat.zero_le _, rfl, by decide⟩

theorem readsWithin_empty (height : Nat) : Decoder.string.ReadsWithin height "" :=
  ⟨0, .text [], Nat.zero_le _, rfl, rfl⟩

theorem readsWithin_noMembers (height : Nat) : Decoder.members.ReadsWithin (height + 1) [] :=
  ⟨1, .object [], by omega, rfl, rfl⟩

theorem rereads_attributes (height : Nat) :
    Decoder.members.Rereads Attributes.toJson (height + 1) :=
  rereads_members height

namespace SpanStatus

theorem rereads : decoder.Rereads toJson 1 := by
  refine .record (fun _ => rfl) (by decide) (fun _ => .refl _) fun f a read => ?_
  obtain ⟨code, codeFound, read⟩ := Fields.step_required (rereads_int32 0) read
  obtain ⟨message, messageFound, read⟩ :=
    Fields.step_nullable (rereads_string 0) (fun _ => rfl) read
  cases read
  refine ⟨fun g holds => ?_, fun literal => ?_⟩
  · rw [codeFound.required holds (by simp), messageFound.nullable holds (by simp)]
    rfl
  · simp only [List.forall_mem_cons]
    exact ⟨codeFound.shallow literal, messageFound.shallow literal, nofun⟩

end SpanStatus

namespace SpanEvent

theorem rereads : decoder.Rereads toJson 2 := by
  refine .record (fun _ => rfl) (by decide) (fun _ => .refl _) fun f a read => ?_
  obtain ⟨time, timeFound, read⟩ :=
    Fields.step_defaulted (rereads_uint64 1) (readsWithin_zero_uint64 1) read
  obtain ⟨name, nameFound, read⟩ :=
    Fields.step_defaulted (rereads_string 1) (readsWithin_empty 1) read
  obtain ⟨attributes, attributesFound, read⟩ :=
    Fields.step_defaulted (rereads_attributes 0) (readsWithin_noMembers 0) read
  obtain ⟨dropped, droppedFound, read⟩ :=
    Fields.step_defaulted (rereads_uint32 1) (readsWithin_zero_uint32 1) read
  cases read
  refine ⟨fun g holds => ?_, fun literal => ?_⟩
  · rw [timeFound.defaulted holds (by simp), nameFound.defaulted holds (by simp),
      attributesFound.defaulted holds (by simp), droppedFound.defaulted holds (by simp)]
    rfl
  · simp only [List.forall_mem_cons]
    exact ⟨timeFound.shallow literal, nameFound.shallow literal, attributesFound.shallow literal,
      droppedFound.shallow literal, nofun⟩

end SpanEvent

namespace SpanLink

theorem rereads : decoder.Rereads toJson 2 := by
  refine .record (fun _ => rfl) (by decide) (fun _ => .refl _) fun f a read => ?_
  obtain ⟨traceId, traceIdFound, read⟩ :=
    Fields.step_defaulted (rereads_string 1) (readsWithin_empty 1) read
  obtain ⟨spanId, spanIdFound, read⟩ :=
    Fields.step_defaulted (rereads_string 1) (readsWithin_empty 1) read
  obtain ⟨traceState, traceStateFound, read⟩ :=
    Fields.step_optional (rereads_string 1) (fun _ => rfl) read
  obtain ⟨attributes, attributesFound, read⟩ :=
    Fields.step_defaulted (rereads_attributes 0) (readsWithin_noMembers 0) read
  obtain ⟨dropped, droppedFound, read⟩ :=
    Fields.step_defaulted (rereads_uint32 1) (readsWithin_zero_uint32 1) read
  cases read
  refine ⟨fun g holds => ?_, fun literal => ?_⟩
  · rw [traceIdFound.defaulted holds (by simp), spanIdFound.defaulted holds (by simp),
      traceStateFound.defaulted holds (by simp), attributesFound.defaulted holds (by simp),
      droppedFound.defaulted holds (by simp)]
    rfl
  · simp only [List.forall_mem_cons]
    exact ⟨traceIdFound.shallow literal, spanIdFound.shallow literal,
      traceStateFound.shallow literal, attributesFound.shallow literal,
      droppedFound.shallow literal, nofun⟩

end SpanLink

namespace InstrumentationScope

theorem rereads : decoder.Rereads toJson 2 := by
  refine .record (fun _ => rfl) (by decide) (fun _ => .refl _) fun f a read => ?_
  obtain ⟨name, nameFound, read⟩ := Fields.step_nullable (rereads_string 1) (fun _ => rfl) read
  obtain ⟨version, versionFound, read⟩ :=
    Fields.step_nullable (rereads_string 1) (fun _ => rfl) read
  obtain ⟨attributes, attributesFound, read⟩ := Fields.step_required (rereads_attributes 0) read
  obtain ⟨dropped, droppedFound, read⟩ := Fields.step_required (rereads_uint32 1) read
  cases read
  refine ⟨fun g holds => ?_, fun literal => ?_⟩
  · rw [nameFound.nullable holds (by simp), versionFound.nullable holds (by simp),
      attributesFound.required holds (by simp), droppedFound.required holds (by simp)]
    rfl
  · simp only [List.forall_mem_cons]
    exact ⟨nameFound.shallow literal, versionFound.shallow literal,
      attributesFound.shallow literal, droppedFound.shallow literal, nofun⟩

end InstrumentationScope

namespace Resource

theorem rereads : decoder.Rereads toJson 2 := by
  refine .record (fun _ => rfl) (by decide) (fun _ => .refl _) fun f a read => ?_
  obtain ⟨attributes, attributesFound, read⟩ := Fields.step_required (rereads_attributes 0) read
  obtain ⟨dropped, droppedFound, read⟩ := Fields.step_required (rereads_uint32 1) read
  cases read
  refine ⟨fun g holds => ?_, fun literal => ?_⟩
  · rw [attributesFound.required holds (by simp), droppedFound.required holds (by simp)]
    rfl
  · simp only [List.forall_mem_cons]
    exact ⟨attributesFound.shallow literal, droppedFound.shallow literal, nofun⟩

end Resource

namespace Span

theorem rereads : decoder.Rereads toJson 4 := by
  refine .record (fun _ => rfl) (by decide) (fun _ => .refl _) fun f a read => ?_
  obtain ⟨spanId, spanIdFound, read⟩ := Fields.step_required (rereads_string 3) read
  obtain ⟨traceId, traceIdFound, read⟩ := Fields.step_required (rereads_string 3) read
  obtain ⟨traceState, traceStateFound, read⟩ :=
    Fields.step_nullable (rereads_string 3) (fun _ => rfl) read
  obtain ⟨parentSpanId, parentSpanIdFound, read⟩ :=
    Fields.step_nullable (rereads_string 3) (fun _ => rfl) read
  obtain ⟨name, nameFound, read⟩ := Fields.step_required (rereads_string 3) read
  obtain ⟨kind, kindFound, read⟩ := Fields.step_required (rereads_int32 3) read
  obtain ⟨status, statusFound, read⟩ :=
    Fields.step_required (SpanStatus.rereads.mono (by decide : 1 ≤ 3)) read
  obtain ⟨start, startFound, read⟩ := Fields.step_required (rereads_uint64 3) read
  obtain ⟨stop, stopFound, read⟩ := Fields.step_required (rereads_uint64 3) read
  obtain ⟨duration, durationFound, read⟩ := Fields.step_required (rereads_uint64 3) read
  obtain ⟨ingestion, ingestionFound, read⟩ := Fields.step_required (rereads_uint64 3) read
  obtain ⟨attributes, attributesFound, read⟩ := Fields.step_required (rereads_attributes 2) read
  obtain ⟨dropped, droppedFound, read⟩ := Fields.step_required (rereads_uint32 3) read
  obtain ⟨events, eventsFound, read⟩ := Fields.step_required SpanEvent.rereads.list read
  obtain ⟨droppedEvents, droppedEventsFound, read⟩ := Fields.step_required (rereads_uint32 3) read
  obtain ⟨links, linksFound, read⟩ := Fields.step_required SpanLink.rereads.list read
  obtain ⟨droppedLinks, droppedLinksFound, read⟩ := Fields.step_required (rereads_uint32 3) read
  obtain ⟨scope, scopeFound, read⟩ :=
    Fields.step_required (InstrumentationScope.rereads.mono (by decide : 2 ≤ 3)) read
  obtain ⟨resource, resourceFound, read⟩ :=
    Fields.step_required (Resource.rereads.mono (by decide : 2 ≤ 3)) read
  cases read
  refine ⟨fun g holds => ?_, fun literal => ?_⟩
  · rw [spanIdFound.required holds (by simp), traceIdFound.required holds (by simp),
      traceStateFound.nullable holds (by simp), parentSpanIdFound.nullable holds (by simp),
      nameFound.required holds (by simp), kindFound.required holds (by simp),
      statusFound.required holds (by simp), startFound.required holds (by simp),
      stopFound.required holds (by simp), durationFound.required holds (by simp),
      ingestionFound.required holds (by simp), attributesFound.required holds (by simp),
      droppedFound.required holds (by simp), eventsFound.required holds (by simp),
      droppedEventsFound.required holds (by simp), linksFound.required holds (by simp),
      droppedLinksFound.required holds (by simp), scopeFound.required holds (by simp),
      resourceFound.required holds (by simp)]
    rfl
  · simp only [List.forall_mem_cons]
    exact ⟨spanIdFound.shallow literal, traceIdFound.shallow literal,
      traceStateFound.shallow literal, parentSpanIdFound.shallow literal,
      nameFound.shallow literal, kindFound.shallow literal, statusFound.shallow literal,
      startFound.shallow literal, stopFound.shallow literal, durationFound.shallow literal,
      ingestionFound.shallow literal, attributesFound.shallow literal,
      droppedFound.shallow literal, eventsFound.shallow literal,
      droppedEventsFound.shallow literal, linksFound.shallow literal,
      droppedLinksFound.shallow literal, scopeFound.shallow literal,
      resourceFound.shallow literal, nofun⟩

end Span

namespace SpanPage

theorem rereads_token (height : Nat) : tokenDecoder.Rereads tokenToJson (height + 1) := by
  refine .record (fun _ => rfl) (by decide) (fun _ => .refl _) fun f a read => ?_
  have step : (f.required "next_token" PageToken.decoder >>= some) = some a := by simpa using read
  obtain ⟨token, tokenFound, read⟩ := Fields.step_required (PageToken.rereads height) step
  cases read
  refine ⟨fun g holds => tokenFound.required holds (by simp), fun literal => ?_⟩
  simp only [List.forall_mem_cons]
  exact ⟨tokenFound.shallow literal, nofun⟩

/-- A page is read again without the rows it skipped, which are never written; the token of a last
page stays absent. -/
theorem rereads : decoder.Rereads toJson 6 := by
  refine .record (fun _ => rfl) (by decide) (fun p => ?_) fun f a read => ?_
  · cases p.nextToken <;> simp
  obtain ⟨spans, spansFound, read⟩ := Fields.step_required Span.rereads.list read
  obtain ⟨token, tokenFound, read⟩ := Fields.step_optional (rereads_token 4) (record_null _ _) read
  cases read
  refine ⟨fun g holds => ?_, fun literal => ?_⟩
  · have tokenAgain := tokenFound.optional holds (fun t same => by simp [same])
      fun same => by simp [same]
    rw [spansFound.required holds (by simp), tokenAgain]
    rfl
  · cases token with
    | none =>
      simp only [Option.map_none, Option.toList_none, List.forall_mem_cons]
      exact ⟨spansFound.shallow literal, nofun⟩
    | some t =>
      simp only [Option.map_some, Option.toList_some, List.forall_mem_cons]
      exact ⟨spansFound.shallow literal, tokenFound.shallow literal, nofun⟩

end SpanPage

end TraceQuery
