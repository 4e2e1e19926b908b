import DeviceSync.Profile.Engine
import DeviceSync.Wire.Record

/-!
# Profiles on the Wire

The written forms of diffs and reports.
-/

namespace DeviceSync.Profile

open Codec (unsigned list opaqueValue instant)

def Policy.codec : Codec Policy := .named Policy.name Policy.ofName?

def Rule.codec : Codec Rule := .named Rule.name Rule.ofName?

/-- A diff may leave its device out, since the service stamps it. -/
def Diff.codec : Codec Diff :=
  .record
    (.cons (.required "field_name" Codec.text) <| .cons (.required "base_version" (unsigned 64)) <|
      .cons (.required "new_value" opaqueValue) <| .cons (.defaulted "device_id" Codec.text "") <|
      .cons (.required "client_timestamp" instant) .nil)
    (fun (field, base, value, device, time, ()) ↦ ⟨field, base, value, device, time⟩)
    (fun d ↦ (d.field, d.base, d.value, d.device, d.time, ()))

def Conflict.codec : Codec Conflict :=
  .record
    (.cons (.required "field_name" Codec.text) <| .cons (.required "winner" Diff.codec) <|
      .cons (.required "loser" Diff.codec) <| .cons (.required "policy" Policy.codec) <|
      .cons (.required "rule" Rule.codec) .nil)
    (fun (field, winner, loser, policy, rule, ()) ↦ ⟨field, winner, loser, policy, rule⟩)
    (fun c ↦ (c.field, c.winner, c.loser, c.policy, c.rule, ()))

def Update.codec : Codec Update :=
  .record
    (.cons (.required "field_name" Codec.text) <| .cons (.required "logical_version" (unsigned 64)) <|
      .cons (.required "value" opaqueValue) <| .cons (.required "last_writer" Codec.text) <|
      .cons (.required "client_timestamp" instant) .nil)
    (fun (field, version, value, writer, time, ()) ↦ ⟨field, version, value, writer, time⟩)
    (fun u ↦ (u.field, u.version, u.value, u.writer, u.time, ()))

def Applied.codec : Codec Applied :=
  .record
    (.cons (.required "field_name" Codec.text) <|
      .cons (.required "logical_version" (unsigned 64)) .nil)
    (fun (field, version, ()) ↦ ⟨field, version⟩)
    (fun a ↦ (a.field, a.version, ()))

def Rejection.codec : Codec Rejection :=
  .record
    (.cons (.required "index" (unsigned 64)) <| .cons (.required "field_name" Codec.text) <|
      .cons (.required "code" Codec.text) <| .cons (.required "message" Codec.text) .nil)
    (fun (index, field, code, message, ()) ↦ ⟨index, field, code, message⟩)
    (fun r ↦ (r.index, r.field, r.code, r.message, ()))

def Outcome.codec : Codec Outcome :=
  .record
    (.cons (.required "applied" (list Applied.codec)) <|
      .cons (.required "conflicts" (list Conflict.codec)) <|
      .cons (.defaulted "resolved" (unsigned 64) 0) <|
      .cons (.required "rejected" (list Rejection.codec)) <|
      .cons (.required "server_diffs" (list Update.codec)) <|
      .cons (.required "sync_point" (unsigned 64)) <| .cons (.required "synced_at" instant) .nil)
    (fun (applied, conflicts, resolved, rejected, updates, syncPoint, time, ()) ↦
      ⟨applied, conflicts, resolved, rejected, updates, syncPoint, time⟩)
    (fun o ↦ (o.applied, o.conflicts, o.resolved, o.rejected, o.updates, o.syncPoint, o.time, ()))

def FieldView.codec : Codec FieldView :=
  .record
    (.cons (.required "field_name" Codec.text) <| .cons (.required "value" opaqueValue) <|
      .cons (.required "logical_version" (unsigned 64)) <|
      .cons (.nullable "last_writer" Codec.text) <| .cons (.nullable "client_timestamp" instant) .nil)
    (fun (field, value, version, writer, time, ()) ↦ ⟨field, value, version, writer, time⟩)
    (fun v ↦ (v.field, v.value, v.version, v.writer, v.time, ()))

end DeviceSync.Profile
