import TableScript.RoundTrip

namespace TableScript

structure Session where
  policy : Policy
  layout : Layout
  schema : Schema
deriving Repr, DecidableEq

namespace Session

def start (policy : Policy) (layout : Layout) (now : Timestamp) : Session :=
  { policy, layout, schema := { metadata := .fresh now } }

/-- Reads a script; what was read takes the place of the schema. -/
def read (session : Session) (now : Timestamp) (script : String) : Session × Reading :=
  let reading := Reading.ofScript session.policy script
  ({ session with schema := reading.schema now }, reading)

def write (session : Session) (now : Timestamp) : Writing :=
  .ofSchema session.layout now session.schema

/-- Reads back what is written of the schema; if nothing can be written, an empty script. -/
def reread (session : Session) (now : Timestamp) : Session × Reading :=
  session.read now (session.write now).text

def roundTrip (session : Session) (now : Timestamp) : RoundTrip :=
  .ofWriting session.schema (session.write now)

end Session

end TableScript
