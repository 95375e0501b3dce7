/-! How a call comes back: with an answer, or in a panic that carries a payload. -/

namespace DfsClient

/-- What a panic carries: a text, or something that is none. -/
inductive Payload where
  | text (message : String)
  | other
deriving DecidableEq, Repr

def Payload.description : Payload → String
  | .text message => message
  | .other => ""

inductive Reply (α : Type) where
  | answered (answer : α)
  | panicked (payload : Payload)
deriving DecidableEq, Repr

namespace Reply

variable {α β : Type}

def map (f : α → β) : Reply α → Reply β
  | .answered answer => .answered (f answer)
  | .panicked payload => .panicked payload

/-- Goes on with the answer; after a panic nothing more is done. -/
def bind (reply : Reply α) (next : α → Reply β) : Reply β :=
  match reply with
  | .answered answer => next answer
  | .panicked payload => .panicked payload

def answer? : Reply α → Option α
  | .answered answer => some answer
  | .panicked _ => none

def panic? : Reply α → Option Payload
  | .answered _ => none
  | .panicked payload => some payload

instance : Monad Reply where
  pure := .answered
  bind := .bind
  map := .map

instance : LawfulMonad Reply := LawfulMonad.mk' Reply
  (by rintro _ (_ | _) <;> rfl)
  (by intros; rfl)
  (by rintro _ _ _ (_ | _) _ _ <;> rfl)
  (by rintro _ _ _ (_ | _) <;> rfl)

end Reply

end DfsClient
