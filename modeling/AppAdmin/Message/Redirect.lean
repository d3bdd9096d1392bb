import AppAdmin.Message
import AppAdmin.Url.Reference

/-!
Replies that send a message on to another URL. What is meant for one host only does not go along to
another one.
-/

namespace AppAdmin

namespace Message

/-- The headers that tell about a body. -/
def bodyHeaders : List String :=
  ["content-type", "content-length", "content-encoding", "transfer-encoding"]

/-- The headers that are meant for one host. -/
def hostHeaders : List String :=
  ["authorization", "cookie", "cookie2", "proxy-authorization", "www-authenticate"]

/-- The message as a mere question. -/
def asked (m : Message) : Message :=
  { m with method := .get, body := none, headers := m.headers.without bodyHeaders }

/-- The message without what is meant for its host. -/
def estranged (m : Message) : Message :=
  { m with login := none, token := none, headers := m.headers.without hostHeaders }

/-- What is sent on under a status, if the status sends on. -/
def underStatus? (m : Message) (s : Status) : Option Message :=
  match s.code.toNat with
  | 301 | 302 => some (if m.method = .post then m.asked else m)
  | 303 => some m.asked
  | 307 | 308 => some m
  | _ => none

/-- The host and port that a URL leads to. -/
def door (u : Url) : Option (Url.Host × Option Nat) :=
  u.authority.map fun a => (a.host, a.port.or (Url.usualPort? u.scheme))

/-- The message for another URL. It names the URL that it comes from, unless that one is secret. -/
def sentTo (m : Message) (u : Url) : Message :=
  let m' := if door u = door m.url then m else m.estranged
  let fromSecret := m.url.scheme = "https".toList ∧ u.scheme = "http".toList
  let headers := if fromSecret then m'.headers
    else m'.headers.insert "referer" { m.url.withoutUserinfo with fragment := none }.text
  { m' with url := u, headers := headers }

/-- The message that a reply asks for in place of this one. -/
def sentOn? (m : Message) (r : Reply) : Option Message := do
  let next ← m.underStatus? r.status
  let reference ← r.headers.get? "Location"
  let u ← (m.url.refer reference.toList).toOption
  return next.sentTo u

end Message

/-- The network that sends messages on, so many times at most. -/
def Network.sendingOn {ν : Type} (network : Network ν) : Nat → Network ν
  | limit, m, state => match network m state with
    | (.error failure, state) => (.error failure, state)
    | (.ok reply, state) => match m.sentOn? reply, limit with
      | none, _ => (.ok reply, state)
      | some _, 0 => (.error ⟨.sentOnTooOften, m.url⟩, state)
      | some next, limit + 1 => sendingOn network limit next state

end AppAdmin
