import Cordon.Http.Exchange

/-! # Scripted replies

A `Script` stands for the other side: it answers one request after the other from a list of replies
and keeps what was sent. When the list is at its end no request is answered any more.
-/

namespace Cordon.Http

/-- Replies still to be given, and the requests so far. -/
structure Script where
  replies : List (Except String Reply)
  sent : List Request

namespace Script

def answer (r : Request) (s : Script) : Except String Reply × Script :=
  match s.replies with
  | [] => (.error "no scripted response", { s with sent := s.sent ++ [r] })
  | reply :: rest => (reply, ⟨rest, s.sent ++ [r]⟩)

def run {α : Type} (p : Program Api α) (s : Script) : α × Script :=
  p.run (fun r s => s.answer r) s

end Script

end Cordon.Http
