import Courier.Text.Characters
import Courier.Wire.Schema

/-!
# Requests

A request is addressed to one peer and may carry a topic. An absent topic and an empty one are two
different requests, on the wire too: `Topic.toWire` sets the inner topic exactly when there is one.
-/

namespace Courier

/-- The routing tag of a request. -/
inductive Topic where
  /-- A topic, possibly the empty text. -/
  | present (topic : String)
  | absent
  deriving DecidableEq

namespace Topic

def ofOption : Option String → Topic
  | some topic => .present topic
  | none => .absent

def toOption : Topic → Option String
  | .present topic => some topic
  | .absent => none

@[simp] theorem toOption_ofOption (t : Option String) : (ofOption t).toOption = t := by
  cases t <;> rfl

@[simp] theorem ofOption_toOption (t : Topic) : ofOption t.toOption = t := by cases t <;> rfl

def isPresent : Topic → Bool
  | .present _ => true
  | .absent => false

def toWire (t : Topic) : Wire.OptionalTopic := { topic := t.toOption.map fun s => { topic := s } }

def describe : Topic → String
  | .present topic => "Present(" ++ Text.quoted topic ++ ")"
  | .absent => "Absent"

end Topic

/-- A request to a single peer. -/
structure Request where
  peerId : String
  data : String
  topic : Topic := .absent
  deriving DecidableEq

namespace Request

/-- The same request with another topic. -/
def withTopic (r : Request) (t : Topic) : Request := { r with topic := t }

/-- The wire form of a request. Every wrapper is set, also around empty texts. -/
def toWire (r : Request) : Wire.SendRequest :=
  { peer := some { peerId := r.peerId }
    msg := some { data := some { data := r.data }, topic := some r.topic.toWire } }

def describe (r : Request) : String :=
  "SendRequest \x7b peer_id: " ++ Text.quoted r.peerId ++ ", data: " ++ Text.quoted r.data
    ++ ", topic: " ++ r.topic.describe ++ " \x7d"

end Request

end Courier
