import Courier.Wire.Record

/-!
# The messages

The seven messages of the service. `Kind` names them, so that a statement about all of them
quantifies over `k : Kind` and `v : k.Value`. Faults name a field by its message and its own name.
-/

namespace Courier.Wire

structure Peer where
  peerId : String := ""
  deriving DecidableEq

structure Payload where
  data : String := ""
  deriving DecidableEq

structure Topic where
  topic : String := ""
  deriving DecidableEq

/-- A topic that may be absent: an absent topic and an empty one differ. -/
structure OptionalTopic where
  topic : Option Topic := none
  deriving DecidableEq

structure Message where
  data : Option Payload := none
  topic : Option OptionalTopic := none
  deriving DecidableEq

structure SendRequest where
  peer : Option Peer := none
  msg : Option Message := none
  deriving DecidableEq

structure Response where
  data : Option Payload := none
  deriving DecidableEq

/-! ## How each is written and read -/

instance : Record Peer where
  empty := {}
  encode p := encodeText 1 p.peerId
  size p := sizeText 1 p.peerId
  field budget key p :=
    match key.number with
    | 1 => (textField key.type >>= fun s => pure { p with peerId := s }).within "Peer.peer_id"
    | _ => unknownField budget key p

instance : Record Payload where
  empty := {}
  encode p := encodeText 1 p.data
  size p := sizeText 1 p.data
  field budget key p :=
    match key.number with
    | 1 => (textField key.type >>= fun s => pure { p with data := s }).within "Payload.data"
    | _ => unknownField budget key p

instance : Record Topic where
  empty := {}
  encode t := encodeText 1 t.topic
  size t := sizeText 1 t.topic
  field budget key t :=
    match key.number with
    | 1 => (textField key.type >>= fun s => pure { t with topic := s }).within "Topic.topic"
    | _ => unknownField budget key t

instance : Record OptionalTopic where
  empty := {}
  encode o := encodeNested 1 o.topic
  size o := sizeNested 1 o.topic
  field budget key o :=
    match key.number with
    | 1 =>
      (nestedField budget key.type o.topic >>= fun t =>
        pure { o with topic := some t }).within "OptionalTopic.topic"
    | _ => unknownField budget key o

instance : Record Message where
  empty := {}
  encode m := encodeNested 1 m.data ++ encodeNested 2 m.topic
  size m := sizeNested 1 m.data + sizeNested 2 m.topic
  field budget key m :=
    match key.number with
    | 1 =>
      (nestedField budget key.type m.data >>= fun p =>
        pure { m with data := some p }).within "Message.data"
    | 2 =>
      (nestedField budget key.type m.topic >>= fun o =>
        pure { m with topic := some o }).within "Message.topic"
    | _ => unknownField budget key m

instance : Record SendRequest where
  empty := {}
  encode r := encodeNested 1 r.peer ++ encodeNested 2 r.msg
  size r := sizeNested 1 r.peer + sizeNested 2 r.msg
  field budget key r :=
    match key.number with
    | 1 =>
      (nestedField budget key.type r.peer >>= fun p =>
        pure { r with peer := some p }).within "SendRequest.peer"
    | 2 =>
      (nestedField budget key.type r.msg >>= fun m =>
        pure { r with msg := some m }).within "SendRequest.msg"
    | _ => unknownField budget key r

instance : Record Response where
  empty := {}
  encode r := encodeNested 1 r.data
  size r := sizeNested 1 r.data
  field budget key r :=
    match key.number with
    | 1 =>
      (nestedField budget key.type r.data >>= fun p =>
        pure { r with data := some p }).within "Response.data"
    | _ => unknownField budget key r

/-! ## All of them -/

/-- The seven messages. -/
inductive Kind where
  | peer | payload | topic | optionalTopic | message | sendRequest | response
  deriving DecidableEq

/-- What a message of a kind holds. -/
def Kind.Value : Kind → Type
  | .peer => Peer
  | .payload => Payload
  | .topic => Topic
  | .optionalTopic => OptionalTopic
  | .message => Message
  | .sendRequest => SendRequest
  | .response => Response

instance (k : Kind) : Record k.Value :=
  match k with
  | .peer => inferInstanceAs (Record Peer)
  | .payload => inferInstanceAs (Record Payload)
  | .topic => inferInstanceAs (Record Topic)
  | .optionalTopic => inferInstanceAs (Record OptionalTopic)
  | .message => inferInstanceAs (Record Message)
  | .sendRequest => inferInstanceAs (Record SendRequest)
  | .response => inferInstanceAs (Record Response)

instance (k : Kind) : DecidableEq k.Value :=
  match k with
  | .peer => inferInstanceAs (DecidableEq Peer)
  | .payload => inferInstanceAs (DecidableEq Payload)
  | .topic => inferInstanceAs (DecidableEq Topic)
  | .optionalTopic => inferInstanceAs (DecidableEq OptionalTopic)
  | .message => inferInstanceAs (DecidableEq Message)
  | .sendRequest => inferInstanceAs (DecidableEq SendRequest)
  | .response => inferInstanceAs (DecidableEq Response)

end Courier.Wire
