import Metacard.Http.Remote
/-!
# Scripted peers

A peer with replies laid ready for messages by their method and target, used up in their order. A
message without a reply of its own is not found. The peer keeps the messages it was sent, unless it
cannot be reached at all.
-/

set_option autoImplicit false

namespace Metacard.Http

structure Script where
  isReachable : Bool
  replies : List (String × Reply)
  received : List Message

namespace Script

def notFound : Reply where
  status := 404
  body := .text ""

def takeReply (line : String) : List (String × Reply) → Reply × List (String × Reply)
  | [] => (notFound, [])
  | entry :: rest =>
      if entry.1 = line then (entry.2, rest)
      else
        let (reply, left) := takeReply line rest
        (reply, entry :: left)

def prepare (script : Script) (replies : List (String × Reply)) : Script :=
  { script with replies := script.replies ++ replies }

def peer : Peer Script where
  answer message script :=
    if script.isReachable then
      let (reply, left) := takeReply message.line script.replies
      (some reply, { script with replies := left, received := script.received ++ [message] })
    else (none, script)

end Script

def Reply.ofText (status : Nat) (text : String) : Reply where
  status := status
  body := .text text

end Metacard.Http
