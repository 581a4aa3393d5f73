import CloudSpeech.Http.Exchange
import CloudSpeech.Log
/-!
# Conversations

A computation that hands requests to services.  It keeps each request that a service is handed, and
the events that led to its value, both in order.
-/

namespace CloudSpeech.Http

structure Conversation (α : Type) where
  sent : List Request
  events : List Log.Event
  value : α

namespace Conversation

def pure {α : Type} (value : α) : Conversation α := ⟨[], [], value⟩

def bind {α β : Type} (first : Conversation α) (next : α → Conversation β) : Conversation β :=
  ⟨first.sent ++ (next first.value).sent, first.events ++ (next first.value).events,
    (next first.value).value⟩

instance : Monad Conversation where
  pure := Conversation.pure
  bind := Conversation.bind

def report (event : Log.Event) : Conversation Unit := ⟨[], [event], ()⟩

/-- Hands a request to a service and waits for what comes of it. -/
def send (service : Service) (request : Request) : Conversation Exchange :=
  ⟨[request], [], service request⟩

/-- A computation that hands nothing to a service. -/
def ofLogged {α : Type} (answer : Logged α) : Conversation α := ⟨[], answer.events, answer.value⟩

/-- A conversation as it is seen by whoever waits for its value. -/
def logged {α : Type} (conversation : Conversation α) : Logged α :=
  ⟨conversation.events, conversation.value⟩

section

variable {α β : Type} (first : Conversation α) (next : α → Conversation β)

@[simp] theorem sent_pure (value : α) : (Pure.pure value : Conversation α).sent = [] := rfl

@[simp] theorem sent_bind :
    (first >>= next).sent = first.sent ++ (next first.value).sent := rfl

@[simp] theorem sent_report (event : Log.Event) : (report event).sent = [] := rfl

@[simp] theorem sent_send (service : Service) (request : Request) :
    (send service request).sent = [request] := rfl

@[simp] theorem sent_ofLogged (answer : Logged α) : (ofLogged answer).sent = [] := rfl

@[simp] theorem logged_pure (value : α) :
    (Pure.pure value : Conversation α).logged = Pure.pure value := rfl

@[simp] theorem logged_bind :
    (first >>= next).logged = first.logged >>= fun value => (next value).logged := rfl

@[simp] theorem logged_report (event : Log.Event) : (report event).logged = Logged.report event :=
  rfl

@[simp] theorem logged_send (service : Service) (request : Request) :
    (send service request).logged = Pure.pure (service request) := rfl

@[simp] theorem logged_ofLogged (answer : Logged α) : (ofLogged answer).logged = answer := rfl

end

end Conversation

end CloudSpeech.Http
