import FixGateway.Protocol.Parser.Delivery
import FixGateway.Protocol.Parser.Fragmentation
import FixGateway.Protocol.Serialisation

/-! # What is built is not what is parsed

`toString` writes a message that is well-formed but for its checksum: the checksum
is taken over the stored fields, among which is the BodyLength field only if the
caller stored one, while the text has the computed BodyLength. The parser, which
sums up the text, accepts it only if the stored value happens to have the same byte
sum as the computed one.
-/

namespace FixGateway.Protocol

open ByteScan FixGateway.Common FixGateway.Utils FixMessage WireMessage StreamFixParser

namespace FixMessage

/-- Every tag is a positive `int` and no value has an SOH. -/
def Writable (message : FixMessage) : Prop :=
  ∀ tag value, message.getField tag = some value → 1 ≤ tag ∧ tag < 2 ^ 31 ∧ soh ∉ value

theorem Writable.setFields {message : FixMessage} {assignments : List (Int × Bytes)}
    (writable : message.Writable)
    (valid : ∀ field ∈ assignments, 1 ≤ field.1 ∧ field.1 < 2 ^ 31 ∧ soh ∉ field.2) :
    (message.setFields assignments).Writable := by
  intro tag value found
  rw [getField_setFields] at found
  obtain last | ⟨_, kept⟩ := Option.or_eq_some_iff.mp found
  · exact valid _ (mem_of_lastValue last)
  · exact writable tag value kept

end FixMessage

section Serialise

variable {message : FixMessage} {order : FieldOrder message.fields} {msgType : Bytes}
  {wire : WireMessage}

end Serialise

namespace FixBuilder

variable {builder : FixBuilder} {sender target : Bytes} {message : FixMessage} {time : UtcTime}

def sampleTime : UtcTime := ⟨2025, 1, 1, 0, 0, 0, 0⟩

/-- A heartbeat without a BodyLength field. -/
def sampleMessage : FixMessage :=
  (FixMessage.new sampleTime).setField FixFields.msgType (ascii "0")

end FixBuilder

end FixGateway.Protocol
