import AppAdmin.Exchange
import AppAdmin.Url

/-!
Messages, and networks that deliver them. A message is a request with all that goes along with it;
a network is a machine that answers messages.
-/

namespace AppAdmin

/-- A message on its way. -/
structure Message where
  method : Method
  url : Url
  /-- User name and password. -/
  login : Option (String × Option String)
  /-- The token of a session. -/
  token : Option String
  userAgent : Option String
  headers : Headers
  body : Option Bytes
  /-- How many seconds the network may be silent. -/
  patience : Nat

namespace Network

/-- What can go wrong with a message. -/
inductive Fault
  | unreachable
  | timedOut
  | broken
  | sentOnTooOften
deriving DecidableEq

/-- Why a message got no reply. -/
structure Failure where
  fault : Fault
  /-- What was asked for last. -/
  url : Url
deriving DecidableEq

end Network

/-- A network with the states `ν`. -/
abbrev Network (ν : Type) := Message → ν → Except Network.Failure Reply × ν

namespace Network

/-- Replies that have come already, and the first message that has none yet. -/
structure Mailbox where
  replies : List (Except Failure Reply)
  waiting : Option Message

/-- The network that hands out the replies of a mailbox in order. -/
def ofMailbox : Network Mailbox
  | _, ⟨reply :: rest, waiting⟩ => (reply, ⟨rest, waiting⟩)
  | m, ⟨[], waiting⟩ => (.error ⟨.unreachable, m.url⟩, ⟨[], waiting.or (some m)⟩)

end Network

end AppAdmin
