import FleetTracking.Json.Basic

/-!
# Exchanges with a service

A client sends a request over a `Network` and gets one reply to it. `Script` is a network whose
replies are laid down in advance; it keeps the requests, in order, also those that got no answer.
-/

namespace FleetTracking.Feed

/-! ## Requests and replies -/

/-- What a request asks for. -/
inductive Method
  | get | post
  deriving DecidableEq, Repr

/-- The name of a method. -/
def Method.name : Method → String
  | get => "GET"
  | post => "POST"

/-- A request to a service. -/
structure Request where
  method : Method
  url : String
  body : Option Json

/-- What comes back. -/
inductive Reply
  | response (status : Int) (body : String)
  /-- The service could not be reached, or did not answer in time. -/
  | unanswered
  /-- Something else went wrong on the way. -/
  | broken

/-- A way to reach services. -/
class Network (ν : Type) where
  /-- Sends a request and waits for the reply. -/
  send : ν → Request → Reply × ν

/-! ## Replies laid down in advance -/

/-- Replies that are used up one by one, and the requests that they answered. -/
structure Script where
  replies : List Reply
  requests : List Request

namespace Script

/-- A script of which nothing has been used. -/
def ofReplies (replies : List Reply) : Script := ⟨replies, []⟩

/-- The reply once the script is at its end: a success that says no more. -/
def lastReply : Reply := .response 200 "\x7b\"success\": true\x7d"

/-- Answers a request with the next reply. -/
def answer (s : Script) (request : Request) : Reply × Script :=
  (s.replies.head?.getD lastReply, ⟨s.replies.tail, s.requests ++ [request]⟩)

end Script

instance : Network Script := ⟨Script.answer⟩

end FleetTracking.Feed
