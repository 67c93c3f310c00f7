import NakamaCpp.Api.MessageCodecs
import NakamaCpp.Lib.Varint

/-!
# Envelopes as bytes

`serialize` and `parse` of src/realtime/NRtClientProtocol_Protobuf.cpp, over the library of protobuf.
A message is one that setters have made, and what is parsed is what the accessors give of it: a
field of a newer server is kept aside, where no accessor gets at it.

    serialize msg = some bytes  →  parse bytes = some msg, and no other message is written so
                                                                        (envelopes_round_trip)
    serialize msg = some (x ++ y)  →  parse (x ++ (unknown ++ y)) = some msg        (parse_newer)
-/

namespace NakamaCpp.RtApi

open Realtime (NBytes)
open Api Wire

variable {R : Runtime}

/-- `NRtClientProtocol_Protobuf::serialize`: a buffer of the size of the message, which
`SerializeToArray` fills.  It refuses what does not fit an `int`. -/
def serialize (R : Runtime) (message : Envelope) : Option NBytes :=
  if (Envelope.codec R).size message < 2 ^ 31 then
    some ⟨((Envelope.codec R).serialize message).toArray⟩
  else none

/-- `NRtClientProtocol_Protobuf::parse`, into a new message; the size is made an `int`. -/
def parse (R : Runtime) (input : NBytes) : Option Envelope :=
  let size := input.size % 2 ^ 32
  if size < 2 ^ 31 then (Envelope.codec R).parse (input.data.toList.take size) else none

theorem parse_of_lt {input : NBytes} (h : input.size < 2 ^ 31) :
    parse R input = (Envelope.codec R).parse input.data.toList := by
  have hmod : input.size % 2 ^ 32 = input.size := Nat.mod_eq_of_lt (by omega)
  have htake : input.data.toList.take input.size = input.data.toList := List.take_length
  unfold parse
  simp only [hmod]
  rw [if_pos h, htake]

theorem size_serialize {message : Envelope} {output : NBytes}
    (h : serialize R message = some output) :
    output.size = (Envelope.codec R).size message ∧ output.size < 2 ^ 31 := by
  unfold serialize at h
  split at h
  · next hsize =>
    cases h
    have hlength : ((Envelope.codec R).serialize message).length = (Envelope.codec R).size message :=
      (Envelope.codec R).length_serialize hsize
    show List.length _ = _ ∧ List.length _ < _
    rw [hlength]
    exact ⟨rfl, hsize⟩
  · cases h

/-- An envelope has messages on four levels, and the default limit is 100. -/
theorem parse_serialize (hlimit : 4 ≤ R.format.recursionLimit) {message : Envelope} {output : NBytes}
    (h : serialize R message = some output) : parse R output = some message := by
  rw [parse_of_lt (size_serialize h).2]
  unfold serialize at h
  split at h
  · next hsize =>
    cases h
    exact (Envelope.codec R).parse_serialize hlimit hsize
  · cases h

theorem serialize_inj (hlimit : 4 ≤ R.format.recursionLimit) {message message' : Envelope}
    {output : NBytes} (h : serialize R message = some output)
    (h' : serialize R message' = some output) : message = message' := by
  have hparse := parse_serialize hlimit h
  rw [parse_serialize hlimit h'] at hparse
  exact (Option.some.inj hparse).symm

/-- **Round trip.**  A message that is serialized fills the buffer, is read from it, and is the only
one that looks so. -/
theorem envelopes_round_trip (hlimit : 4 ≤ R.format.recursionLimit) {message : Envelope}
    {output : NBytes} (h : serialize R message = some output) :
    output.size = (Envelope.codec R).size message ∧ parse R output = some message ∧
      ∀ message', serialize R message' = some output → message' = message :=
  ⟨(size_serialize h).1, parse_serialize hlimit h, fun _ h' => serialize_inj hlimit h' h⟩

/-- The messages of google.protobuf, in the format with varints. -/
def varintRuntime : Runtime where
  format := varintFormat
  timestamp := .ofCodec (F := varintFormat)
    (((Codec.singular .int64 1 Codec.valid_one).prod <| Codec.singular .int32 2 Codec.valid_two).equiv
      ⟨fun (seconds, nanos) => ⟨seconds, nanos⟩, fun m => (m.seconds, m.nanos),
        fun _ => rfl, fun _ => rfl⟩) rfl
  boolValue := .ofCodec (F := varintFormat) (Codec.singular .bool 1 Codec.valid_one) rfl
  int32Value := .ofCodec (F := varintFormat) (Codec.singular .int32 1 Codec.valid_one) rfl
  stringValue := .ofCodec (F := varintFormat) (Codec.singular .string 1 Codec.valid_one) rfl

/-- Somebody has come into a match, with a status. -/
def joined : Envelope where
  message := ⟨.matchPresenceEvent,
    ({ matchId := "m", joins := [⟨"u", "s", "n", true, some "away"⟩] } : MatchPresenceEvent)⟩

/-- Its frame. -/
def joinedFrame : NBytes :=
  ⟨#[146, 1, 24, 10, 1, 109, 18, 19, 10, 1, 117, 18, 1, 115, 26, 1, 110, 32, 1, 42, 6, 10, 4, 97,
    119, 97, 121]⟩

theorem envelopes_round_trip_joined :
    joinedFrame.size = (Envelope.codec varintRuntime).size joined ∧
      parse varintRuntime joinedFrame = some joined ∧
      ∀ message', serialize varintRuntime message' = some joinedFrame → message' = joined :=
  envelopes_round_trip (by decide) (by decide +kernel)

end NakamaCpp.RtApi
