import Tidebook.Indexer.Decoder
import Tidebook.Program.Events
import Mathlib.Data.List.Perm.Basic

/-! # Event codec agreement

The program's event types and the indexer's mirrors are two lists written apart. They agree, so what
one side writes the other reads back, and nothing else is read.
-/

namespace Tidebook.Proof
open Library Codec Indexer
open Program.Events (EventType emittedEvents emit)

/-! ## The two catalogs -/

set_option maxRecDepth 4096 in
theorem catalogs_agree_distinct :
    (routes.map fun route => (route.discriminator, route.mirror)).Perm
        (emittedEvents.map fun type => (type.discriminator, type.declaration)) ∧
      (routes.map Route.discriminator).Nodup ∧ (routes.map Route.mirror).Nodup := by
  decide +kernel

theorem catalogs_agree :
    (routes.map fun route => (route.discriminator, route.mirror)).Perm
      (emittedEvents.map fun type => (type.discriminator, type.declaration)) :=
  catalogs_agree_distinct.1

theorem discriminators_distinct : (routes.map Route.discriminator).Nodup :=
  catalogs_agree_distinct.2.1

theorem declarations_distinct : (routes.map Route.mirror).Nodup :=
  catalogs_agree_distinct.2.2

theorem route_of_type {type : EventType} (declared : type ∈ emittedEvents) :
    ∃ route ∈ routes, route.discriminator = type.discriminator ∧
      route.mirror = type.declaration := by
  have listed := catalogs_agree.mem_iff.mpr
    (List.mem_map_of_mem (f := fun type => (type.discriminator, type.declaration)) declared)
  obtain ⟨route, member, same⟩ := List.mem_map.mp listed
  exact ⟨route, member, congrArg Prod.fst same, congrArg Prod.snd same⟩

theorem type_of_route {route : Route} (member : route ∈ routes) :
    ∃ type ∈ emittedEvents, type.discriminator = route.discriminator ∧
      type.declaration = route.mirror := by
  have listed := catalogs_agree.mem_iff.mp
    (List.mem_map_of_mem (f := fun route => (route.discriminator, route.mirror)) member)
  obtain ⟨type, declared, same⟩ := List.mem_map.mp listed
  exact ⟨type, declared, congrArg Prod.fst same, congrArg Prod.snd same⟩

theorem route_found {route : Route} (member : route ∈ routes) :
    routes.find? (·.discriminator = route.discriminator) = some route := by
  cases found : routes.find? (·.discriminator = route.discriminator) with
  | none => simpa using List.find?_eq_none.mp found route member
  | some other =>
      have same := List.find?_some found
      rw [decide_eq_true_eq] at same
      exact congrArg some
        (List.inj_on_of_nodup_map discriminators_distinct (List.mem_of_find?_eq_some found) member same)

/-- An arm hands its fields on to the variant that the mirror is kept under. -/
def Route.Keeps (route : Route) : Prop :=
  ∀ event, (route.wrap event).content = ⟨route.mirror, event⟩ ∧
    (route.wrap event).eventType = route.mirror.name

theorem route_keeps : ∀ route ∈ routes, Route.Keeps route := by
  simp only [routes, List.forall_mem_cons]
  repeat' apply And.intro
  all_goals first | exact fun _ => ⟨rfl, rfl⟩ | exact nofun

/-! ## Stages -/

theorem decodeEnvelope_eq_ok {raw : RawEventLog} {envelope : DecodedEventEnvelope} :
    decodeEnvelope raw = .ok envelope ↔ envelope.logIndex = raw.logIndex ∧
      envelope.payloadBase64 = raw.payloadBase64 ∧
      raw.payloadBase64 = Base64.encode (envelope.discriminator.val ++ envelope.body) := by
  simp only [decodeEnvelope, bind_eq_ok, okOr_eq_ok, pure_eq_ok, Base64.decode_eq_some]
  constructor
  · rintro ⟨decoded, payload, ⟨discriminator, body⟩, split, rfl⟩
    rw [decode_eq_some] at split
    exact ⟨rfl, rfl, payload.trans (congrArg _ split)⟩
  · rintro ⟨index, text, payload⟩
    refine ⟨_, payload, ⟨envelope.discriminator, envelope.body⟩, decode_eq_some.mpr rfl, ?_⟩
    rw [← index, ← text]

theorem decodeBody_eq_ok {body : List UInt8} {declared : Declaration}
    {event : Record declared.fields} :
    decodeBody body declared = .ok event ↔ body = (Record.codec declared.fields).encode event := by
  rw [decodeBody, okOr_eq_ok, read_eq_some]

theorem decodeEvent_eq_ok {raw : RawEventLog} {decoded : DecodedEventLog} :
    decodeEvent raw = .ok decoded ↔ ∃ route ∈ routes, ∃ event : Record route.mirror.fields,
      decoded = ⟨raw.logIndex, raw.payloadBase64, route.wrap event⟩ ∧
      raw.payloadBase64 =
        Base64.encode (route.discriminator.val ++ (Record.codec route.mirror.fields).encode event) := by
  simp only [decodeEvent, bind_eq_ok, okOr_eq_ok, pure_eq_ok, decodeEnvelope_eq_ok,
    decodeBody_eq_ok]
  constructor
  · rintro ⟨envelope, ⟨index, text, payload⟩, route, found, event, body, rfl⟩
    have same := List.find?_some found
    rw [decide_eq_true_eq] at same
    refine ⟨route, List.mem_of_find?_eq_some found, event, by rw [index, text], ?_⟩
    rw [payload, body, same]
  · rintro ⟨route, member, event, rfl, payload⟩
    exact ⟨⟨raw.logIndex, raw.payloadBase64, route.discriminator, _⟩, ⟨rfl, rfl, payload⟩, route,
      route_found member, event, rfl, rfl⟩

/-! ## Agreement -/

theorem decodeEvent_emit {type : EventType} (declared : type ∈ emittedEvents) (content : type.Content)
    (logIndex : Nat) : ∃ decoded, decodeEvent ⟨logIndex, emit type content⟩ = .ok decoded ∧
      decoded.logIndex = logIndex ∧ decoded.payloadBase64 = emit type content ∧
      decoded.event.content = ⟨type.declaration, content⟩ ∧
      decoded.event.eventType = type.declaration.name := by
  obtain ⟨⟨discriminator, mirror, wrap⟩, member, same, agreed⟩ := route_of_type declared
  obtain ⟨discriminator, declaration⟩ := type
  cases same
  cases agreed
  obtain ⟨kept, named⟩ := route_keeps _ member content
  exact ⟨_, decodeEvent_eq_ok.mpr ⟨_, member, content, rfl, rfl⟩, rfl, rfl, kept, named⟩

theorem emit_of_decodeEvent {raw : RawEventLog} {decoded : DecodedEventLog}
    (done : decodeEvent raw = .ok decoded) : ∃ type ∈ emittedEvents, ∃ content : type.Content,
      decoded.event.content = ⟨type.declaration, content⟩ ∧
      raw.payloadBase64 = emit type content := by
  obtain ⟨⟨discriminator, mirror, wrap⟩, member, event, rfl, payload⟩ := decodeEvent_eq_ok.mp done
  obtain ⟨⟨written, declaration⟩, declared, same, agreed⟩ := type_of_route member
  cases same
  cases agreed
  exact ⟨_, declared, event, (route_keeps _ member event).1, payload⟩

theorem payload_eq_iff {raw other : RawEventLog} {decoded again : DecodedEventLog}
    (done : decodeEvent raw = .ok decoded) (also : decodeEvent other = .ok again) :
    raw.payloadBase64 = other.payloadBase64 ↔ decoded.event = again.event := by
  obtain ⟨route, member, event, rfl, payload⟩ := decodeEvent_eq_ok.mp done
  obtain ⟨route', member', event', rfl, payload'⟩ := decodeEvent_eq_ok.mp also
  constructor
  · intro same
    rw [payload, payload'] at same
    have bytes := Base64.encode_injective same
    have heads := List.append_inj_left bytes
      (route.discriminator.property.trans route'.discriminator.property.symm)
    have equal := List.inj_on_of_nodup_map discriminators_distinct member member' (Subtype.ext heads)
    cases equal
    have fields := encode_injective _ (List.append_cancel_left bytes)
    rw [fields]
  · intro same
    change route.wrap event = route'.wrap event' at same
    have kept := (route_keeps _ member event).1
    rw [same, (route_keeps _ member' event').1, Sigma.mk.injEq] at kept
    have equal := List.inj_on_of_nodup_map declarations_distinct member' member kept.1
    cases equal
    rw [payload, payload', eq_of_heq kept.2]

theorem event_codec_agreement :
    (∀ type ∈ emittedEvents, ∀ (content : type.Content) logIndex, ∃ decoded,
      decodeEvent ⟨logIndex, emit type content⟩ = .ok decoded ∧
      decoded.logIndex = logIndex ∧ decoded.payloadBase64 = emit type content ∧
      decoded.event.content = ⟨type.declaration, content⟩ ∧
      decoded.event.eventType = type.declaration.name) ∧
    (∀ raw decoded, decodeEvent raw = .ok decoded →
      ∃ type ∈ emittedEvents, ∃ content : type.Content,
        decoded.event.content = ⟨type.declaration, content⟩ ∧
        Base64.decode raw.payloadBase64 = some (type.bytes content) ∧
        raw.payloadBase64 = emit type content) ∧
    ∀ raw other decoded again, decodeEvent raw = .ok decoded → decodeEvent other = .ok again →
      (raw.payloadBase64 = other.payloadBase64 ↔ decoded.event = again.event) := by
  refine ⟨fun type declared content logIndex => decodeEvent_emit declared content logIndex, ?_,
    fun _ _ _ _ done also => payload_eq_iff done also⟩
  intro raw decoded done
  obtain ⟨type, declared, content, same, payload⟩ := emit_of_decodeEvent done
  exact ⟨type, declared, content, same, Base64.decode_eq_some.mpr payload, payload⟩

end Tidebook.Proof
